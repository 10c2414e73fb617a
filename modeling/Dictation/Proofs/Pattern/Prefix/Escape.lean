import Dictation.Proofs.Pattern.Prefix.Basic

namespace Dictation.Pattern

/-- A brace is left that nothing follows before `w` but blanks and comments. -/
def Stuck (f : Flags) (w u : Text) : Prop := Past w u ∨ ∃ q, u = '\x7b' :: (q ++ w) ∧ f.skip q = []

namespace Escape

variable {w t : Text} {f : Flags} {k m : Nat} {n : Option Nat}

theorem bracedHex_fuel (hk : t.length < k) (hm : t.length < m) :
    bracedHex f k n t = bracedHex f m n t := by
  induction k generalizing m n t with
  | zero => cases hk
  | succ k ih =>
    obtain ⟨m, rfl⟩ := Nat.exists_eq_succ_of_ne_zero (Nat.ne_zero_of_lt hm)
    have hlen := length_skip_le f t
    rw [bracedHex, bracedHex]
    cases ht : f.skip t with
    | nil => rfl
    | cons c r =>
      rw [ht, List.length_cons] at hlen
      have hrest (n : Option Nat) : bracedHex f k n r = bracedHex f m n r :=
        ih (by omega) (by omega)
      simp only [hrest]

theorem bracedName_fuel (hk : t.length < k) (hm : t.length < m) :
    bracedName f k t = bracedName f m t := by
  induction k generalizing m t with
  | zero => cases hk
  | succ k ih =>
    obtain ⟨m, rfl⟩ := Nat.exists_eq_succ_of_ne_zero (Nat.ne_zero_of_lt hm)
    have hlen := length_skip_le f t
    rw [bracedName, bracedName]
    cases ht : f.skip t with
    | nil => rfl
    | cons c r =>
      rw [ht, List.length_cons] at hlen
      dsimp only
      rw [ih (m := m) (by omega) (by omega)]

def className (f : Flags) (t : Text) : Option (CharSet × Text) :=
  match f.skip t with
  | [] => none
  | '\\' :: _ => none
  | '\x7b' :: t => (bracedName f (t.length + 1) t).bind fun (name, t) =>
    (ClassName.read? name).map (·, t)
  | c :: t => (ClassName.named? [c]).map (·, f.skip t)

def edge? (ascii : Bool) (name : Text) : Option Place :=
  match String.ofList name with
  | "start" => some (.wordStart ascii)
  | "end" => some (.wordEnd ascii)
  | "start-half" => some (.noWordBefore ascii)
  | "end-half" => some (.noWordAfter ascii)
  | _ => none

def namedBoundary (f : Flags) (t : Text) : Option (Place × Text) :=
  match boundaryName f t.length t with
  | (name, '\x7d' :: t) => (edge? (!f.unicode) name).map (·, t)
  | _ => none

theorem boundary_of_ne (ht : t.head? ≠ some '\x7b') :
    boundary f t = some (.wordEdge (!f.unicode), t) := by
  unfold boundary
  split
  · exact absurd rfl ht
  · rfl

theorem boundary_of_skip_nil (ht : f.skip t = []) : boundary f ('\x7b' :: t) = none := by
  simp only [boundary, ht]

theorem boundary_of_skip_cons {c : Char} {r : Text} (ht : f.skip t = c :: r) :
    boundary f ('\x7b' :: t) =
      if isBoundaryLetter c then namedBoundary f (c :: r)
        else some (.wordEdge (!f.unicode), '\x7b' :: t) := by
  simp only [boundary, ht]
  cases isBoundaryLetter c with
  | false => rfl
  | true =>
    simp only [namedBoundary, List.length_cons]
    generalize boundaryName f (r.length + 1) (c :: r) = x
    simp only [Bool.not_true, Bool.false_eq_true, if_false, if_true]
    obtain ⟨name, _ | ⟨d, u⟩⟩ := x
    · rfl
    by_cases hd : d = '\x7d'
    · subst hd
      simp only [edge?]
      split <;> simp_all
    · simp only [Prod.mk.injEq, List.cons.injEq, hd, false_and, and_false, imp_self, implies_true]

variable (hw : w.head? = some ')')

include hw

theorem local_fixedHex (f : Flags) (k n : Nat) : Local w (Past w) (fixedHex f k n) := by
  induction k generalizing n with
  | zero => exact .returns n
  | succ k ih =>
    exact .cons hw (fun _ => id) (fun c => .choose (hex? c) fun d => (ih (16 * n + d)).skip hw f)
      rfl fun _ _ => rfl

theorem local_bracedHex (f : Flags) (k : Nat) (n : Option Nat) :
    Local w (Past w) (bracedHex f k n) := by
  induction k generalizing n with
  | zero => exact .fails
  | succ k ih =>
    refine .skip_cons hw f (fun c => .ite (p := c = '\x7d')
      (fun _ => (Local.same n).skip hw f) fun _ =>
      .choose (hex? c) fun d => ih (some (16 * n.getD 0 + d))) (fun t ht => ?_) fun t c r ht => ?_
    · rw [bracedHex, ht]
    · rw [bracedHex, ht]

theorem local_number (f : Flags) (letter : Char) : Local w (Past w) (number f letter) := by
  have hbraced := (Local.fuel (fun k => local_bracedHex hw f k none) bracedHex_fuel).bind_past
    fun n =>
    Local.same (scalar? n)
  have hfixed := (local_fixedHex hw f (if letter = 'x' then 2 else if letter = 'u' then 4 else 8)
    0).bind_past fun n =>
    Local.ite (p := (!f.unicode && letter == 'x' && n > 127) = true) (fun _ => .fails) fun _ =>
      .same (scalar? n)
  refine .skip_lookFor hw f '\x7b' (by decide) hbraced hfixed (fun t r ht => ?_) fun t ht => ?_
  · rw [number, ht]
    rfl
  · rw [number]
    split
    · next r hr => exact absurd (congrArg List.head? hr) ht
    · rfl

theorem local_bracedName (f : Flags) (k : Nat) : Local w (Past w) (bracedName f k) := by
  induction k with
  | zero => exact .fails
  | succ k ih =>
    refine .skip_cons hw f (fun c => .ite (p := c = '\x7d') (fun _ => .returns []) fun _ =>
      ih.map (c :: ·)) (fun t ht => ?_) fun t c r ht => ?_
    · rw [bracedName, ht]
    · rw [bracedName, ht]

theorem local_classSet (f : Flags) (negated : Bool) : Local w (Past w) (classSet f negated) := by
  have hbraced := (Local.fuel (local_bracedName hw f) bracedName_fuel).bind_past fun name =>
    Local.same (ClassName.read? name)
  have hname : Local w (Past w) (className f) := by
    refine .skip_cons hw f (fun c => .ite (p := c = '\\') (fun _ => .fails) fun _ =>
      .ite (p := c = '\x7b')
      (fun _ => hbraced) fun _ => (Local.same (ClassName.named? [c])).skip hw f) (fun t ht => ?_)
      fun t c r ht => ?_
    · rw [className, ht]
    · rw [className, ht]
      split
      · next heq => cases heq
      · next heq =>
        cases heq
        rfl
      · next heq =>
        cases heq
        rfl
      · next c' r' hslash hbrace heq =>
        obtain ⟨rfl, rfl⟩ := List.cons.inj heq
        rw [if_neg hslash, if_neg hbrace]
  exact (Local.ite (p := (!f.unicode) = true) (fun _ => .fails) fun _ => hname.map fun s =>
    if negated then fun c => !f.widen s c else f.widen s).congr fun t => rfl

theorem local_namedBoundary (f : Flags) : Local w (Past w) (namedBoundary f) := by
  have hname : Local w (Past w) fun t => some (boundaryName f t.length t) := by
    refine (Local.fuel (local_spell hw (p := isBoundaryLetter) rfl f)
      fun hk hm => congrArg some (spell_fuel (Nat.le_of_lt hk) (Nat.le_of_lt hm))).congr fun t => ?_
    rw [boundaryName_eq_spell, spell_fuel (Nat.le_refl _) (Nat.le_succ _)]
  have hbrace (name : Text) : Local w (Past w) fun t =>
      if t.head? = some '\x7d' then (edge? (!f.unicode) name).map (·, t.tail) else none :=
    .lookFor hw '\x7d' (by decide) (.same (edge? (!f.unicode) name)) .fails (fun t => if_pos rfl)
      fun t ht => if_neg ht
  refine (hname.bind_past hbrace).congr fun t => ?_
  rw [namedBoundary, Option.bind_some]
  split
  · next name r hr =>
    rw [hr]
    rfl
  · next hne =>
    rw [if_neg]
    intro hhead
    obtain ⟨r, hr⟩ := List.head?_eq_some_iff.1 hhead
    exact hne _ r (Prod.ext rfl hr)

/-- A name is read without `w`; braces that have no end before `w` are left for a repetition. -/
theorem local_boundary (f : Flags) : Local w (Stuck f w) (boundary f) where
  leaves t a u h := by
    by_cases ht : t.head? = some '\x7b'
    · obtain ⟨t, rfl⟩ := List.head?_eq_some_iff.1 ht
      cases hskip : f.skip t with
      | nil =>
        rw [boundary_of_skip_nil hskip] at h
        cases h
      | cons c r =>
        have hsuffix := skip_suffix f t
        rw [boundary_of_skip_cons hskip] at h
        split at h
        · have := (local_namedBoundary hw f).leaves _ h
          rw [hskip] at hsuffix
          exact (this.trans hsuffix).trans (List.suffix_cons _ t)
        · exact leaves_some _ _ h
    · rw [boundary_of_ne ht] at h
      exact leaves_some _ _ h
  recovers t a u h := by
    by_cases ht : t.head? = some '\x7b'
    · obtain ⟨t, rfl⟩ := List.head?_eq_some_iff.1 ht
      rw [List.cons_append] at h
      cases hskip : f.skip (t ++ w) with
      | nil =>
        rw [boundary_of_skip_nil hskip] at h
        cases h
      | cons c r =>
        rw [boundary_of_skip_cons hskip] at h
        obtain ⟨hpast, hnil⟩ | heq := skip_append hw f t
        · -- A comment goes on into `w`, and nothing follows the brace before `w`.
          rw [hskip] at hpast
          split at h
          · exact .inl (.inl (Nat.lt_of_le_of_lt ((local_namedBoundary hw f).le h) hpast))
          · cases h
            exact .inl (.inr ⟨t, rfl, hnil⟩)
        · rw [hskip] at heq
          cases ht' : f.skip t with
          | nil =>
            obtain ⟨v, rfl⟩ := List.head?_eq_some_iff.1 hw
            rw [ht'] at heq
            cases heq
            cases h
            exact .inl (.inr ⟨t, rfl, ht'⟩)
          | cons d s =>
            rw [ht'] at heq
            obtain ⟨rfl, rfl⟩ := List.cons.inj heq
            rw [boundary_of_skip_cons ht']
            by_cases hc : isBoundaryLetter c = true
            · rw [if_pos hc] at h ⊢
              exact ((local_namedBoundary hw f).recovers (c :: s) h).imp_left .inl
            · rw [if_neg hc] at h ⊢
              exact recovers_some _ ('\x7b' :: t) h
    · have htw : (t ++ w).head? ≠ some '\x7b' := by
        cases t with
        | nil => simp [hw]
        | cons d t => exact ht
      rw [boundary_of_ne htw] at h
      rw [boundary_of_ne ht]
      exact recovers_some _ t h

theorem local_read?_of_ne (f : Flags) {c : Char} (hc : c ≠ 'b') : Local w (Past w) fun t =>
  read? f (c :: t) where
  leaves t := by
    unfold read?
    dsimp only
    split
    case h_1 | h_2 | h_3 => exact ((local_number hw f _).map Primitive.literal).leaves t
    case h_4 | h_5 => exact ((local_classSet hw f _).map (Primitive.set · 20000)).leaves t
    case h_20 => exact absurd rfl hc
    case h_24 =>
      split
      · exact leaves_some _ t
      · exact leaves_none
    all_goals first | exact leaves_some _ t | exact (Local.made (w := w) (E := Past w) _ _).leaves t
  recovers t := by
    unfold read?
    dsimp only
    split
    case h_1 | h_2 | h_3 => exact ((local_number hw f _).map Primitive.literal).recovers t
    case h_4 | h_5 => exact ((local_classSet hw f _).map (Primitive.set · 20000)).recovers t
    case h_20 => exact absurd rfl hc
    case h_24 =>
      split
      · exact recovers_some _ t
      · exact recovers_none
    all_goals first | exact recovers_some _ t | exact (Local.made _ _).recovers t

theorem local_read? (f : Flags) : Local w (Stuck f w) (read? f) := by
  refine .cons hw (fun _ => .inl) (K := fun c t => read? f (c :: t)) (fun c => ?_) rfl fun _ _ =>
    rfl
  by_cases hc : c = 'b'
  · subst hc
    exact (local_boundary hw f).map Primitive.place
  · exact (local_read?_of_ne hw f hc).mono fun _ => .inl

end Escape

end Dictation.Pattern
