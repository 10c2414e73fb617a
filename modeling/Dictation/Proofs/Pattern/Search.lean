import Dictation.Pattern.Search
import Dictation.Proofs.Pattern.Leads

namespace Dictation.Pattern

namespace Positions

variable {s : Positions} {n i : Nat}

theorem leastFrom_eq_none_iff : s.leastFrom n i = none ↔ ∀ k, i ≤ k → k < i +
    n → s.mem k = false := by
  induction n generalizing i with
  | zero =>
    have hempty : ∀ k, i ≤ k → k < i + 0 → s.mem k = false := fun k hik hki => by omega
    exact iff_of_true rfl hempty
  | succ n ih =>
    rw [leastFrom]
    split
    · next hi =>
      have hnot : ¬∀ k, i ≤ k → k < i + (n + 1) → s.mem k = false :=
        fun h => Bool.false_ne_true ((h i le_rfl (by omega)).symm.trans hi)
      simp [hnot]
    · next hi =>
      rw [ih]
      constructor
      · intro h k hik hkn
        obtain rfl | hlt := hik.eq_or_lt
        · exact Bool.not_eq_true _ ▸ hi
        · exact h k hlt (by omega)
      · intro h k hik hkn
        exact h k (by omega) (by omega)

theorem leastFrom_eq_some {j : Nat} (hj : s.mem j = true) (hle : i ≤ j) (hlt : j < i + n)
    (hleast : ∀ k, i ≤ k → k < j → s.mem k = false) : s.leastFrom n i = some j := by
  induction n generalizing i with
  | zero => omega
  | succ n ih =>
    obtain rfl | hne := hle.eq_or_lt
    · exact if_pos hj
    · have hi : ¬s.mem i = true := Bool.not_eq_true _ ▸ hleast i le_rfl hne
      have hnext := ih hne (by omega) fun k hik hkj => hleast k (by omega) hkj
      exact (if_neg hi).trans hnext

theorem of_leastFrom_eq_some {j : Nat} (h : s.leastFrom n i = some j) :
    s.mem j = true ∧ ∀ k, i ≤ k → k < j → s.mem k = false := by
  induction n generalizing i with
  | zero => cases h
  | succ n ih =>
    rw [leastFrom] at h
    split at h
    · next hi =>
      obtain rfl := Option.some.inj h
      exact ⟨hi, fun k hik hki => by omega⟩
    · next hi =>
      obtain ⟨hj, hleast⟩ := ih h
      refine ⟨hj, fun k hik hkj => ?_⟩
      obtain rfl | hlt := hik.eq_or_lt
      · exact Bool.not_eq_true _ ▸ hi
      · exact hleast k hlt hkj

theorem le_of_leastFrom_eq_some {j : Nat} (h : s.leastFrom n i = some j) : i ≤ j := by
  induction n generalizing i with
  | zero => cases h
  | succ n ih =>
    rw [leastFrom] at h
    split at h
    · exact (Option.some.inj h).le
    · exact (Nat.le_succ i).trans (ih h)

end Positions

section Locate

variable {t : Text} {i : Nat}

theorem getElem?_sides (previous : Option Char) (t : Text) (i : Nat) :
    (sides previous t)[i]? =
      if i ≤ t.length then some (if i = 0 then previous else t[i - 1]?, t[i]?) else none := by
  induction t generalizing previous i with
  | nil => cases i <;> simp [sides]
  | cons c t ih =>
    cases i with
    | zero => simp [sides]
    | succ i => cases i <;> simp [sides, ih]

theorem mem_locate_place (l : Place) (t : Text) (i : Nat) :
    (l.locate t).mem i = true ↔
      i ≤ t.length ∧ l.holds (if i = 0 then none else t[i - 1]?) t[i]? = true := by
  rw [Place.locate, Positions.mem_ofFlags, List.getElem?_map, getElem?_sides]
  by_cases hi : i ≤ t.length <;> simp [hi]

@[simp] theorem mem_locate_textStart : (Place.textStart.locate t).mem i = true ↔ i = 0 := by
  rw [mem_locate_place]
  constructor
  · rintro ⟨hi, hbefore⟩
    by_contra hne
    have hlt : i - 1 < t.length := by omega
    rw [if_neg hne, List.getElem?_eq_getElem hlt] at hbefore
    cases hbefore
  · rintro rfl
    exact ⟨Nat.zero_le _, rfl⟩

@[simp] theorem mem_locate_textEnd : (Place.textEnd.locate t).mem i = true ↔ i = t.length := by
  rw [mem_locate_place]
  simp only [Place.holds, Option.isNone_iff_eq_none, List.getElem?_eq_none_iff]
  omega

end Locate

section Search

variable {p : Pattern} {t : Text} {i : Nat}

/-- A match starts at a position when it leads from there to any place in the text. -/
def StartsAt (p : Pattern) (t : Text) (i : Nat) : Prop := ∃ j, j ≤ t.length ∧ Leads (p.locate t) i j

theorem mem_starts_iff :
    (reach t.length (p.locate t) (.all t.length)).mem i = true ↔ p.StartsAt t i := by
  have hgoal : Positions.all t.length ≤ .all t.length := fun _ => id
  simp [mem_reach_iff hgoal, StartsAt]

theorem findStart?_isSome_iff : (p.findStart? t).isSome ↔ ∃ i, p.StartsAt t i := by
  rw [findStart?, Option.isSome_iff_ne_none, Ne, Positions.leastFrom_eq_none_iff]
  constructor
  · intro h
    simp only [not_forall, Bool.not_eq_false] at h
    obtain ⟨i, -, -, hi⟩ := h
    exact ⟨i, mem_starts_iff.1 hi⟩
  · rintro ⟨i, j, hj, hl⟩ h
    have hi := h i (Nat.zero_le i) (by have := hl.le; omega)
    rw [← Bool.not_eq_true, mem_starts_iff] at hi
    exact hi ⟨j, hj, hl⟩

theorem StartsAt.le_length (h : p.StartsAt t i) : i ≤ t.length := by
  obtain ⟨j, hj, hl⟩ := h
  exact hl.le.trans hj

/-- A search finds the leftmost place where a match starts. -/
theorem findStart?_eq_some_iff : p.findStart? t = some i ↔ p.StartsAt t i ∧ ∀ k,
    p.StartsAt t k → i ≤ k := by
  rw [findStart?]
  constructor
  · intro h
    obtain ⟨hi, hleast⟩ := Positions.of_leastFrom_eq_some h
    refine ⟨mem_starts_iff.1 hi, fun k hk => Nat.le_of_not_lt fun hlt => ?_⟩
    have hnot := hleast k (Nat.zero_le k) hlt
    rw [mem_starts_iff.2 hk] at hnot
    cases hnot
  · rintro ⟨hi, hleast⟩
    have hle := hi.le_length
    refine Positions.leastFrom_eq_some (mem_starts_iff.2 hi) (Nat.zero_le i) (by omega) ?_
    intro k _ hk
    rw [← Bool.not_eq_true, mem_starts_iff]
    exact fun hstarts => absurd (hleast k hstarts) (Nat.not_le.2 hk)

theorem matchesIn_iff : p.matchesIn t = true ↔ ∃ i, p.StartsAt t i := findStart?_isSome_iff

end Search

end Dictation.Pattern
