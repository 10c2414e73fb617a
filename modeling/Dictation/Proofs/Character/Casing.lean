import Dictation.Character.Casing
import Dictation.Proofs.Marker.Tokens

namespace Dictation

namespace Character

def CaseRun.Misses (r : CaseRun) (x : Nat) : Prop :=
  r.start + r.length * r.stride + r.forward ≤ x + r.backward ∨ x + r.backward < r.start + r.forward

theorem CaseRun.apply_ne {r : CaseRun} {x y : Nat} (hr : r.Misses y) (hy : y ≠ 0)
    (hx : r.covers x = true) : r.apply x ≠ y := by
  simp only [covers, Bool.and_eq_true, decide_eq_true_eq] at hx
  rw [apply]
  rcases hr with hr | hr <;> omega

namespace CaseMap

/-- Whether none of some code points is the image of another one, or in it. -/
def Misses (m : CaseMap) (xs : List Nat) : Prop :=
  (∀ r ∈ m.runs, ∀ x ∈ xs, r.Misses x) ∧ ∀ e ∈ m.expansions, ∀ x ∈ xs, x ∉ e.2

instance (r : CaseRun) (x : Nat) : Decidable (r.Misses x) := inferInstanceAs (Decidable (_ ∨ _))

instance (m : CaseMap) (xs : List Nat) : Decidable (m.Misses xs) :=
  inferInstanceAs (Decidable (_ ∧ _))

/-- A number that is no code point would give the null character. -/
theorem toNat_ofNat_of_ne {x : Nat} (h : (Char.ofNat x).toNat ≠ 0) : (Char.ofNat x).toNat = x := by
  by_cases hx : x.isValidChar
  · rw [Char.ofNat, dif_pos hx]
    rfl
  · rw [Char.ofNat, dif_neg hx] at h
    exact absurd rfl h

theorem eq_of_mem_apply {m : CaseMap} {xs : List Nat} (hm : m.Misses xs) {c d : Char}
    (hd : d.toNat ∈ xs) (hzero : d.toNat ≠ 0) (h : d ∈ m.apply c) : d = c := by
  rw [apply] at h
  split at h
  · next e image he =>
    obtain ⟨x, hx, rfl⟩ := List.mem_map.1 h
    rw [toNat_ofNat_of_ne hzero] at hd
    exact absurd hx (hm.2 _ (List.mem_of_find?_eq_some he) x hd)
  · split at h
    · next r hr =>
      have hcovers : r.covers c.toNat = true := List.find?_some (p := (CaseRun.covers · c.toNat)) hr
      have hne := CaseRun.apply_ne (hm.1 r (List.mem_of_find?_eq_some hr) _ hd) hzero hcovers
      obtain rfl := List.mem_singleton.1 h
      exact absurd (toNat_ofNat_of_ne hzero).symm hne
    · exact List.mem_singleton.1 h

theorem tableEntries_ofList (t : Text) :
    tableEntries (String.ofList t) = (Text.pieces '\n' t).flatMap (Text.pieces ' ') := by
  rw [tableEntries, String.toList_ofList]

end CaseMap

end Character

namespace Marker

open Character

def reserved : List Nat := [startBase.toNat, stopBase.toNat, caretSymbol.toNat]

theorem mem_reserved_iff {c : Char} :
    c.toNat ∈ reserved ↔ c = startBase ∨ c = stopBase ∨ c = caretSymbol := by
  simp only [reserved, List.mem_cons, List.not_mem_nil, or_false, Char.toNat_inj]

theorem unmarked_iff {t : Text} : Unmarked t ↔ ∀ c ∈ t, c.toNat ∉ reserved := by
  simp only [mem_reserved_iff, Unmarked]
  grind

-- The literals are rewritten as lists of characters, so that they need not be decoded.
theorem misses_upperMap : upperMap.Misses reserved := by
  rw [upperMap, CaseMap.read, CaseMap.tableEntries_ofList, CaseMap.tableEntries_ofList]
  decide +kernel

theorem misses_lowerMap : lowerMap.Misses reserved := by
  rw [lowerMap, CaseMap.read, CaseMap.tableEntries_ofList, CaseMap.tableEntries_ofList]
  decide +kernel

variable {c : Char}

theorem unmarked_singleton_iff : Unmarked [c] ↔ c.toNat ∉ reserved := by
  rw [unmarked_iff, List.forall_mem_singleton]

theorem unmarked_of_lt (h : c.toNat < 128) : Unmarked [c] := by
  rw [unmarked_singleton_iff]
  intro hc
  have hlarge : ∀ x ∈ reserved, 128 ≤ x := by decide
  exact absurd h (Nat.not_lt.2 (hlarge _ hc))

theorem unmarked_apply {m : CaseMap} (hm : m.Misses reserved) (hc : Unmarked [c]) :
    Unmarked (m.apply c) := by
  rw [unmarked_singleton_iff] at hc
  rw [unmarked_iff]
  intro d hd hreserved
  have hzero : 0 ∉ reserved := by decide
  obtain rfl := CaseMap.eq_of_mem_apply hm hreserved (fun h => hzero (h ▸ hreserved)) hd
  exact hc hreserved

theorem unmarked_upper (hc : Unmarked [c]) : Unmarked (upper c) := by
  rw [upper]
  split
  · next h =>
    have hupper : ∀ x < 128, (Char.ofNat x).toUpper.toNat < 128 := by decide
    exact unmarked_of_lt (Char.ofNat_toNat c ▸ hupper c.toNat h)
  · exact unmarked_apply misses_upperMap hc

theorem unmarked_lower (hc : Unmarked [c]) : Unmarked (lower c) := by
  rw [lower]
  split
  · next h =>
    have hlower : ∀ x < 128, (Char.ofNat x).toLower.toNat < 128 := by decide
    exact unmarked_of_lt (Char.ofNat_toNat c ▸ hlower c.toNat h)
  · exact unmarked_apply misses_lowerMap hc

end Marker

end Dictation
