import Dictation.Proofs.Pattern.Suffix.Basic

namespace Dictation.Pattern.Escape

variable {w t u : Text} {f : Flags}

theorem carries_fixedHex (hw : Closing w) (h : Extends w t u) (k n : Nat) :
    Carries (Beside (Extends w)) (fixedHex f k n t) (fixedHex f k n u) := by
  induction k generalizing n t u with
  | zero => exact .some ⟨rfl, h⟩
  | succ k ih =>
    cases t with
    | nil => exact .none
    | cons c t =>
      obtain rfl := h.eq_cons
      exact (Carries.refl _).bind fun x _ hxy => hxy ▸ ih ((Extends.behind t).skip hw f) _

theorem carries_bracedHex (hw : Closing w) (h : Extends w t u) {k k' : Nat} (hk : k ≤ k')
    (n : Option Nat) : Carries (Beside (Extends w)) (bracedHex f k n t) (bracedHex f k' n u) := by
  induction k generalizing k' n t u with
  | zero => exact .none
  | succ k ih =>
    obtain ⟨k', rfl⟩ := Nat.exists_eq_succ_of_ne_zero (Nat.ne_zero_of_lt hk)
    rw [bracedHex, bracedHex]
    cases ht : f.skip t with
    | nil => exact .none
    | cons c r =>
      rw [h.skip_eq_cons hw ht]
      dsimp only
      split
      · exact .same n fun n => ⟨rfl, (Extends.behind r).skip hw f⟩
      · exact (Carries.refl _).bind fun x _ hxy =>
          hxy ▸ ih (.behind r) (Nat.le_of_succ_le_succ hk) _

theorem carries_number (hw : Closing w) (h : Extends w t u) (letter : Char) :
    Carries (Beside (Extends w)) (number f letter t) (number f letter u) := by
  rw [number, number]
  cases ht : f.skip t with
  | nil =>
    have hnone : fixedHex f (if letter = 'x' then 2 else if letter = 'u' then 4 else 8) 0 [] =
        none := by
      split
      · rfl
      · split <;> rfl
    dsimp only
    rw [hnone]
    exact .none
  | cons c r =>
    rw [h.skip_eq_cons hw ht]
    by_cases hc : c = '\x7b'
    · subst hc
      have hlen : r.length + 1 ≤ (r ++ w).length + 1 := by simp
      refine (carries_bracedHex hw (.behind r) hlen _).bind ?_
      rintro ⟨n, t⟩ ⟨_, u⟩ ⟨rfl, h⟩
      exact .same _ fun x => ⟨rfl, h⟩
    · simp only [List.cons.injEq, hc, false_and, imp_self, implies_true]
      refine (carries_fixedHex hw (.behind (c :: r)) _ _).bind ?_
      rintro ⟨n, t⟩ ⟨_, u⟩ ⟨rfl, h⟩
      dsimp only
      split
      · exact .none
      · exact .same _ fun x => ⟨rfl, h⟩

theorem carries_bracedName (hw : Closing w) (h : Extends w t u) {k k' : Nat} (hk : k ≤ k') :
    Carries (Beside (Extends w)) (bracedName f k t) (bracedName f k' u) := by
  induction k generalizing k' t u with
  | zero => exact .none
  | succ k ih =>
    obtain ⟨k', rfl⟩ := Nat.exists_eq_succ_of_ne_zero (Nat.ne_zero_of_lt hk)
    rw [bracedName, bracedName]
    cases ht : f.skip t with
    | nil => exact .none
    | cons c r =>
      rw [h.skip_eq_cons hw ht]
      dsimp only
      split
      · exact .some ⟨rfl, .behind r⟩
      · refine (ih (.behind r) (Nat.le_of_succ_le_succ hk)).map ?_
        rintro ⟨name, t⟩ ⟨_, u⟩ ⟨rfl, h⟩
        exact ⟨rfl, h⟩

theorem carries_classSet (hw : Closing w) (h : Extends w t u) (negated : Bool) :
    Carries (Beside (Extends w)) (classSet f negated t) (classSet f negated u) := by
  rw [classSet, classSet]
  split
  · exact .none
  · refine Carries.map (R := Beside (Extends w)) ?_ ?_
    · cases ht : f.skip t with
      | nil => exact .none
      | cons c r =>
        rw [h.skip_eq_cons hw ht]
        by_cases hslash : c = '\\'
        · subst hslash
          exact .none
        · by_cases hbrace : c = '\x7b'
          · subst hbrace
            have hlen : r.length + 1 ≤ (r ++ w).length + 1 := by simp
            refine (carries_bracedName hw (.behind r) hlen).bind ?_
            rintro ⟨name, t⟩ ⟨_, u⟩ ⟨rfl, h⟩
            exact .same _ fun x => ⟨rfl, h⟩
          · simp only
            exact .same _ fun x => ⟨rfl, (Extends.behind r).skip hw f⟩
    · rintro ⟨s, t⟩ ⟨_, u⟩ ⟨rfl, h⟩
      exact ⟨rfl, h⟩

theorem carries_boundary (hw : Closing w) (h : Extends w t u) :
    Carries (Beside (Extends w)) (boundary f t) (boundary f u) := by
  cases t with
  | nil =>
    obtain ⟨v, rfl⟩ := hw.head
    cases h with
    | behind => exact .some ⟨rfl, .behind []⟩
    | swallowed => exact .some ⟨rfl, .swallowed⟩
  | cons c t =>
    obtain rfl := h.eq_cons
    unfold boundary
    by_cases hbrace : c = '\x7b'
    · subst hbrace
      cases ht : f.skip t with
      | nil =>
        simp only [ht]
        exact .none
      | cons d r =>
        simp only [ht, (Extends.behind t).skip_eq_cons hw ht]
        split
        · exact .some ⟨rfl, .behind ('\x7b' :: t)⟩
        · have hname := beside_spell (f := f) (p := isBoundaryLetter) hw rfl (.behind (d :: r))
            (k := r.length + 1) (m := (r ++ w).length + 1) (by simp) (by simp)
          rw [← boundaryName_eq_spell, ← boundaryName_eq_spell, List.cons_append] at hname
          cases hp : boundaryName f (r.length + 1) (d :: r) with
          | mk name rest =>
            cases hq : boundaryName f ((r ++ w).length + 1) (d :: (r ++ w)) with
            | mk name' rest' =>
              rw [hp, hq] at hname
              obtain ⟨hnames, hrest⟩ := hname
              dsimp only at hnames hrest
              subst hnames
              cases rest with
              | nil => exact .none
              | cons e rest =>
                obtain rfl := hrest.eq_cons
                split
                · next heq =>
                  cases heq
                  simp only
                  split <;> first | exact .none | exact .some ⟨rfl, .behind rest⟩
                · exact .none
    · simp only [List.cons.injEq, hbrace, false_and, imp_self, implies_true]
      exact .some ⟨rfl, .behind (c :: t)⟩

theorem carries_read? (hw : Closing w) (h : Extends w t u) :
    Carries (Beside (Extends w)) (read? f t) (read? f u) := by
  cases t with
  | nil => exact .none
  | cons c t =>
    obtain rfl := h.eq_cons
    unfold read?
    dsimp only
    split
    case h_1 | h_2 | h_3 => exact (carries_number hw (.behind t) _).mapFst _
    case h_4 | h_5 => exact (carries_classSet hw (.behind t) _).mapFst (Primitive.set · 20000)
    case h_20 => exact (carries_boundary hw (.behind t)).mapFst _
    case h_24 =>
      split
      · exact .some ⟨rfl, .behind t⟩
      · exact .none
    all_goals first | exact .some ⟨rfl, .behind t⟩ | exact .same _ fun _ => ⟨rfl, .behind t⟩

end Dictation.Pattern.Escape
