import Dictation.Proofs.Pattern.Suffix.Escape

namespace Dictation.Pattern.Bracket

open Character

variable {w t u : Text} {f : Flags} {c : Char}

theorem carries_primitive (hw : Closing w) (h : Extends w t u) :
    Carries (Beside (Extends w)) (primitive f t) (primitive f u) := by
  cases t with
  | nil => exact .none
  | cons c t =>
    obtain rfl := h.eq_cons
    unfold primitive
    by_cases hc : c = '\\'
    · subst hc
      exact Escape.carries_read? hw (.behind t)
    · simp only
      exact .some ⟨rfl, .behind t⟩

theorem skipComments_dropWhile (t : Text) :
    Flags.skipComments false (t.dropWhile isBlank) = Flags.skipComments false t := by
  induction t with
  | nil => rfl
  | cons c t ih =>
    rw [List.dropWhile_cons]
    split
    · next hc => rw [ih, Flags.skipComments, if_pos hc]
    · rfl

theorem skipComments_of_blank (ht : ∀ c ∈ t, isBlank c = true) (b : Bool) :
    Flags.skipComments b t = [] := by
  induction t generalizing b with
  | nil => cases b <;> rfl
  | cons c t ih =>
    rw [List.forall_mem_cons] at ht
    cases b with
    | true => exact ih ht.2 _
    | false =>
      rw [Flags.skipComments, if_pos ht.1]
      exact ih ht.2 false

theorem dropWhile_append_of_eq_cons {p : Char → Bool} {d : Char} {r : Text}
    (ht : t.dropWhile p = d :: r) : (t ++ w).dropWhile p = d :: (r ++ w) := by
  rw [List.dropWhile_append, ht]
  rfl

theorem peek_of_extends (h : Extends w (c :: t) u) {d : Char} (hd : peek f (c :: t) = some d) :
    peek f u = some d := by
  obtain rfl := h.eq_cons
  unfold peek at hd ⊢
  rw [List.drop_succ_cons, List.drop_zero] at hd ⊢
  dsimp only at hd ⊢
  split at hd
  · next hv =>
    rw [if_pos hv, List.head?_append, hd, Option.some_or]
  · next hv =>
    rw [if_neg hv]
    cases hr : t.dropWhile isBlank with
    | nil =>
      rw [hr] at hd
      cases hd
    | cons e r =>
      rw [hr] at hd
      rw [dropWhile_append_of_eq_cons hr]
      by_cases he : e = '#'
      · subst he
        simp only at hd ⊢
        cases hr' : r.dropWhile isBlank with
        | nil =>
          rw [hr'] at hd
          cases hd
        | cons e' r' =>
          rw [hr'] at hd
          rw [dropWhile_append_of_eq_cons hr']
          exact hd
      · simp only [List.cons.injEq, he, false_and, imp_self, implies_true] at hd ⊢
        exact hd

theorem skip_of_peek_eq_none (h : peek f (c :: t) = none) : f.skip t = [] := by
  unfold peek at h
  rw [List.drop_succ_cons, List.drop_zero] at h
  dsimp only at h
  split at h
  · rw [List.head?_eq_none_iff.1 h, skip_nil]
  · next hv =>
    rw [Bool.not_eq_true, Bool.not_eq_false'] at hv
    rw [Flags.skip, if_pos hv, ← skipComments_dropWhile]
    split at h
    · next r hr =>
      rw [hr]
      have hblank := List.dropWhile_eq_nil_iff.1 (List.head?_eq_none_iff.1 h)
      exact skipComments_of_blank hblank true
    · rw [List.head?_eq_none_iff.1 h]
      rfl

theorem carries_item (hw : Closing w) (h : Extends w t u) :
    Carries (Beside (Extends w)) (item f t) (item f u) := by
  refine (carries_primitive hw h).bind ?_
  rintro ⟨first, t⟩ ⟨_, u⟩ ⟨rfl, h⟩
  cases ht : f.skip t with
  | nil =>
    simp only [ht]
    exact .none
  | cons c r =>
    simp only [ht, h.skip_eq_cons hw ht]
    by_cases hc : c = '-'
    · subst hc
      simp only
      cases hp : peek f ('-' :: r) with
      | none =>
        -- With nothing to see behind the hyphen there is nothing to read either.
        rw [skip_of_peek_eq_none hp]
        exact .none
      | some d =>
        have hq : peek f ('-' :: (r ++ w)) = some d := peek_of_extends (.behind ('-' :: r)) hp
        rw [hq]
        split
        · exact .same _ fun x => ⟨rfl, .behind ('-' :: r)⟩
        · refine (carries_primitive hw ((Extends.behind r).skip hw f)).bind ?_
          rintro ⟨second, t⟩ ⟨_, u⟩ ⟨rfl, h⟩
          dsimp only
          split
          · split
            · exact .some ⟨rfl, h⟩
            · exact .none
          · exact .none
    · simp only [List.cons.injEq, hc, false_and, imp_self, implies_true]
      exact .same _ fun x => ⟨rfl, .behind (c :: r)⟩

theorem item_singleton (f : Flags) (c : Char) : item f [c] = none := by
  unfold item primitive
  by_cases hc : c = '\\'
  · subst hc
    rfl
  · simp only [Option.bind_some, skip_nil]

theorem carries_leadingHyphens (hw : Closing w) (h : Extends w t u) {k k' : Nat} (hk : k ≤ k')
    (v : Items) :
    Carries (Beside (Extends w)) (leadingHyphens f v k t) (leadingHyphens f v k' u) := by
  induction k generalizing k' v t u with
  | zero => exact .none
  | succ k ih =>
    obtain ⟨k', rfl⟩ := Nat.exists_eq_succ_of_ne_zero (Nat.ne_zero_of_lt hk)
    cases t with
    | nil => exact .none
    | cons c t =>
      obtain rfl := h.eq_cons
      unfold leadingHyphens
      by_cases hc : c = '-'
      · subst hc
        exact ih ((Extends.behind t).skip hw f) (Nat.le_of_succ_le_succ hk) _
      · simp only [List.cons.injEq, hc, false_and, imp_self, implies_true]
        exact .some ⟨rfl, .behind (c :: t)⟩

def named? (f : Flags) (negated : Bool) (t : Text) : Option (Option ReadSet × Text) :=
  match t.drop (t.takeWhile (· != ':')).length with
  | ':' :: ']' :: r =>
    (ClassName.ascii? (t.takeWhile (· != ':'))).map fun s =>
      ((if negated then f.complement? (f.widen s) else some (f.widen s)).map fun s => ⟨s, 0, 64⟩, r)
  | _ => none

theorem asciiClass?_of_ne (hc : c ≠ ':') : asciiClass? f (c :: t) = none := by
  unfold asciiClass?
  simp only [List.cons.injEq, hc, false_and, imp_self, implies_true]

theorem asciiClass?_of_ne_caret (ht : t.head? ≠ some '^') :
    asciiClass? f (':' :: t) = named? f false t := by
  cases t with
  | nil => rfl
  | cons c t =>
    have hc : c ≠ '^' := fun h => ht (congrArg some h)
    unfold asciiClass?
    simp only [List.cons.injEq, hc, false_and, imp_self, implies_true]
    rfl

theorem drop_of_named? {negated : Bool} {x : Option ReadSet × Text}
    (h : named? f negated t = some x) :
    t.drop (t.takeWhile (· != ':')).length = ':' :: ']' :: x.2 := by
  unfold named? at h
  split at h
  · next r hr =>
    obtain ⟨s, -, rfl⟩ := Option.map_eq_some_iff.1 h
    exact hr
  · cases h

/-- The name of an ASCII class is read without `w`, or else it goes on into `w`. -/
theorem named?_cases (hw : w.head? = some ')') (f : Flags) (negated : Bool) (t : Text) :
    (named? f negated (t ++ w) = (named? f negated t).map fun x => (x.1, x.2 ++ w)) ∨
      named? f negated t = none ∧ ':' ∈ w ∧ ∃ x, named? f negated (t ++ w) = some x ∧
        x.2.length < w.length := by
  obtain ⟨htake, -, hdrop⟩ | ⟨hnil, hsuffix⟩ := takeWhile_append_cases (· != ':') t w
  · left
    obtain ⟨v, rfl⟩ := List.head?_eq_some_iff.1 hw
    unfold named?
    rw [htake, hdrop]
    obtain _ | ⟨c, _ | ⟨d, r⟩⟩ := t.drop (t.takeWhile (· != ':')).length
    · rfl
    · simp
    · by_cases hc : c = ':' ∧ d = ']'
      · obtain ⟨rfl, rfl⟩ := hc
        simp only [List.cons_append, Option.map_map]
        rfl
      · simp only [List.cons_append, List.cons.injEq, ← and_assoc, hc, false_and, imp_self,
          implies_true]
        rfl
  · have halone : named? f negated t = none := by rw [named?, hnil]
    cases h : named? f negated (t ++ w) with
    | none =>
      left
      rw [halone]
      rfl
    | some x =>
      rw [drop_of_named? h] at hsuffix
      have hlen := hsuffix.length_le
      exact .inr ⟨halone, hsuffix.subset List.mem_cons_self, x, rfl, Nat.lt_of_succ_lt hlen⟩

/-- What is read after the bracket of an ASCII class is taken alike where it is one, and nothing is
where it is not. -/
theorem asciiClass?_cases (hw : w.head? = some ')') (f : Flags) (t : Text) :
    (asciiClass? f (t ++ w) = (asciiClass? f t).map fun x => (x.1, x.2 ++ w)) ∨
      asciiClass? f t = none ∧ ':' ∈ w ∧ ∃ x, asciiClass? f (t ++ w) = some x ∧
        x.2.length < w.length := by
  obtain ⟨v, rfl⟩ := List.head?_eq_some_iff.1 hw
  cases t with
  | nil =>
    left
    rw [List.nil_append, asciiClass?_of_ne (by decide)]
    rfl
  | cons c t =>
    rw [List.cons_append]
    by_cases hc : c = ':'
    · subst hc
      by_cases ht : t.head? = some '^'
      · obtain ⟨t, rfl⟩ := List.head?_eq_some_iff.1 ht
        exact named?_cases rfl f true t
      · have htw : (t ++ ')' :: v).head? ≠ some '^' := by
          cases t with
          | nil => simp
          | cons d t => exact ht
        rw [asciiClass?_of_ne_caret ht, asciiClass?_of_ne_caret htw]
        exact named?_cases rfl f false t
    · left
      rw [asciiClass?_of_ne hc, asciiClass?_of_ne hc]
      rfl

theorem asciiClass?_append (hw : Closing w) (f : Flags) (t : Text) :
    asciiClass? f (t ++ w) = (asciiClass? f t).map fun x => (x.1, x.2 ++ w) := by
  obtain ⟨v, hv⟩ := hw.head
  exact (asciiClass?_cases (hv ▸ rfl) f t).resolve_right fun h => hw.colon h.2.1

def leading? (f : Flags) (negated : Bool) (t : Text) : Option (Bool × Items × Text) :=
  (leadingHyphens f {} (t.length + 1) t).bind fun (v, t) =>
    match t with
    | ']' :: r =>
      if v.count = 0 then
        match f.skip r with
        | [] => none
        | r => some (negated, v.add ⟨(· == ']'), 0, 8⟩, r)
      else some (negated, v, t)
    | t => some (negated, v, t)

theorem carries_leading? (hw : Closing w) (h : Extends w t u) (negated : Bool) :
    Carries (Beside (Beside (Extends w))) (leading? f negated t) (leading? f negated u) := by
  refine (carries_leadingHyphens hw h (Nat.succ_le_succ h.length_le) _).bind ?_
  rintro ⟨v, t⟩ ⟨_, u⟩ ⟨rfl, h⟩
  dsimp only
  cases t with
  | nil =>
    obtain ⟨v, rfl⟩ := hw.head
    cases h with
    | behind => exact .some ⟨rfl, rfl, .behind []⟩
    | swallowed => exact .some ⟨rfl, rfl, .swallowed⟩
  | cons c r =>
    obtain rfl := h.eq_cons
    by_cases hc : c = ']'
    · subst hc
      simp only
      split
      · cases hr : f.skip r with
        | nil => exact .none
        | cons d r' =>
          rw [(Extends.behind r).skip_eq_cons hw hr]
          exact .some ⟨rfl, rfl, .behind (d :: r')⟩
      · exact .some ⟨rfl, rfl, .behind (']' :: r)⟩
    · simp only [List.cons.injEq, hc, false_and, imp_self, implies_true]
      exact .some ⟨rfl, rfl, .behind (c :: r)⟩

theorem carries_opening (hw : Closing w) (h : Extends w t u) :
    Carries (Beside (Beside (Extends w))) (opening f t) (opening f u) := by
  unfold opening
  cases ht : f.skip t with
  | nil => exact .none
  | cons c r =>
    rw [h.skip_eq_cons hw ht]
    by_cases hc : c = '^'
    · subst hc
      exact carries_leading? hw ((Extends.behind r).skip hw f) true
    · simp only [List.cons.injEq, hc, false_and, imp_self, implies_true]
      exact carries_leading? hw (.behind (c :: r)) false

theorem carries_contents (hw : Closing w) (h : Extends w t u) {k k' : Nat} (hk : k ≤ k')
    (stack : List Frame) (v : Items) : Carries (Beside (Extends w)) (contents f k stack v t)
      (contents f k' stack v u) := by
  induction k generalizing k' stack v t u with
  | zero => exact .none
  | succ k ih =>
    obtain ⟨k', rfl⟩ := Nat.exists_eq_succ_of_ne_zero (Nat.ne_zero_of_lt hk)
    replace hk := Nat.le_of_succ_le_succ hk
    unfold contents
    cases ht : f.skip t with
    | nil =>
      simp only
      exact .none
    | cons c r =>
      simp only [h.skip_eq_cons hw ht]
      by_cases hopen : c = '['
      · subst hopen
        simp only [asciiClass?_append hw]
        cases asciiClass? f r with
        | none =>
          refine (carries_opening hw (.behind r)).bind ?_
          rintro ⟨negated, inner, t⟩ ⟨_, _, u⟩ ⟨rfl, rfl, h⟩
          exact ih h hk _ _
        | some x =>
          obtain ⟨s | s, t⟩ := x
          · exact .none
          · exact ih (.behind t) hk _ _
      · by_cases hclose : c = ']'
        · subst hclose
          simp only
          split
          · refine (Carries.refl _).bind ?_
            rintro s _ rfl
            split
            · exact .some ⟨rfl, .behind r⟩
            · exact ih (.behind r) hk _ _
          · exact .none
        · cases r with
          | nil =>
            -- Only here could the text behind make an operator of the last
            -- character; but a list never ends so.
            simp only [List.cons.injEq, hopen, hclose, false_and, imp_self, implies_true,
              item_singleton]
            exact .none
          | cons d r =>
            by_cases hand : c = '&' ∧ d = '&'
            · obtain ⟨rfl, rfl⟩ := hand
              exact ih (.behind r) hk _ _
            · by_cases hminus : c = '-' ∧ d = '-'
              · obtain ⟨rfl, rfl⟩ := hminus
                exact ih (.behind r) hk _ _
              · by_cases htilde : c = '~' ∧ d = '~'
                · obtain ⟨rfl, rfl⟩ := htilde
                  exact ih (.behind r) hk _ _
                · simp only [List.cons.injEq, List.cons_append, hopen, hclose, ← and_assoc, hand,
                    hminus, htilde, false_and, imp_self, implies_true]
                  refine (carries_item hw (.behind (c :: d :: r))).bind ?_
                  rintro ⟨s, t⟩ ⟨_, u⟩ ⟨rfl, h⟩
                  exact ih h hk _ _

theorem carries_read? (hw : Closing w) (h : Extends w t u) :
    Carries (Beside (Extends w)) (read? f t) (read? f u) := by
  refine (carries_opening hw h).bind ?_
  rintro ⟨negated, v, r⟩ ⟨_, _, r'⟩ ⟨rfl, rfl, hr⟩
  exact carries_contents hw hr (Nat.succ_le_succ h.length_le) _ _

end Dictation.Pattern.Bracket
