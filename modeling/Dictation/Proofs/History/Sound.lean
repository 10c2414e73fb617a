import Dictation.Proofs.History.Zipper
import Dictation.Proofs.Marker.Tokens

namespace Dictation.History

structure Sound (h : History) : Prop where
  entries_ne_nil : h.entries ≠ []
  length_le : h.entries.length ≤ h.capacity
  index_lt : ∃ i, h.index = some i ∧ i < h.entries.length
  chain : h.entries.IsChain (· ≠ ·)
  unmarked : ∀ t ∈ h.entries, Marker.Unmarked t

variable {h k : History} {t : Text}

section Zipper

variable {z : Zipper} {capacity : Nat}

theorem sound_toHistory : (z.toHistory capacity).Sound ↔
    z.entries.length ≤ capacity ∧ z.entries.IsChain (· ≠ ·) ∧
      ∀ t ∈ z.entries, Marker.Unmarked t := by
  constructor
  · intro hs
    exact ⟨hs.length_le, hs.chain, hs.unmarked⟩
  · rintro ⟨hl, hc, hu⟩
    have hlt : z.past.length < z.entries.length := by simp
    exact ⟨List.ne_nil_of_length_pos (Nat.zero_lt_of_lt hlt), hl, ⟨_, rfl, hlt⟩, hc, hu⟩

theorem Sound.exists_zipper (hs : h.Sound) : ∃ z : Zipper, h = z.toHistory h.capacity := by
  obtain ⟨i, hi, hlt⟩ := hs.index_lt
  obtain ⟨entries, index, capacity⟩ := h
  simp only at hi hlt
  subst hi
  refine ⟨⟨entries.take i, entries[i], entries.drop (i + 1)⟩, ?_⟩
  simp [Zipper.toHistory, Zipper.entries, Nat.min_eq_left hlt.le]

theorem Sound.length_past_lt (hs : (z.toHistory capacity).Sound) : z.past.length < capacity :=
  Zipper.length_past_lt hs.length_le

theorem Sound.of_entries {y : Zipper} (hs : (z.toHistory capacity).Sound)
    (hy : y.entries = z.entries) : (y.toHistory capacity).Sound := by
  rw [sound_toHistory] at hs ⊢
  rwa [hy]

end Zipper

theorem sound_push (hs : h.Sound) (ht : Marker.Unmarked t) : (h.push t).Sound := by
  obtain ⟨z, hz⟩ := hs.exists_zipper
  rw [hz] at hs ⊢
  have hroom := hs.length_past_lt
  rw [Zipper.push_toHistory z _ hroom, Zipper.push]
  cases hp : z.push? h.capacity t with
  | none => exact hs
  | some y =>
    have he := Zipper.entries_of_push? (Nat.zero_lt_of_lt hroom) hp
    have hne : z.current ≠ t := by
      rintro rfl
      simp [Zipper.push?] at hp
    obtain ⟨-, hc, hu⟩ := sound_toHistory.1 hs
    rw [Zipper.entries, List.append_cons] at hc hu
    rw [Option.getD_some, sound_toHistory, he]
    refine ⟨he ▸ Zipper.length_of_push? (Nat.zero_lt_of_lt hroom) hp, ?_, ?_⟩
    · refine List.IsChain.drop (hc.left_of_append.append (List.isChain_singleton t) ?_) _
      simpa using hne
    · intro s hmem
      rcases List.mem_append.1 (List.mem_of_mem_drop hmem) with hmem | hmem
      · exact hu s (List.mem_append_left _ hmem)
      · exact List.mem_singleton.1 hmem ▸ ht

theorem sound_undo? (hs : h.Sound) (hk : h.undo? = some k) : k.Sound := by
  obtain ⟨z, hz⟩ := hs.exists_zipper
  rw [hz, Zipper.undo?_toHistory, Option.map_eq_some_iff] at hk
  obtain ⟨y, hy, rfl⟩ := hk
  exact (hz ▸ hs).of_entries (Zipper.entries_of_undo? hy)

theorem sound_redo? (hs : h.Sound) (hk : h.redo? = some k) : k.Sound := by
  obtain ⟨z, hz⟩ := hs.exists_zipper
  rw [hz, Zipper.redo?_toHistory, Option.map_eq_some_iff] at hk
  obtain ⟨y, hy, rfl⟩ := hk
  exact (hz ▸ hs).of_entries (Zipper.entries_of_redo? hy)

section New

variable {capacity room : Nat}

theorem room_le_iff : max capacity 1 ≤ maxCapacity ↔ capacity ≤ maxCapacity :=
  Nat.max_le.trans (and_iff_left (by decide))

theorem ofCapacity?_of_le (h : capacity ≤ maxCapacity) :
    ofCapacity? capacity = some (empty (max capacity 1)) := if_pos (room_le_iff.2 h)

theorem ofCapacity?_eq_none_iff : ofCapacity? capacity = none ↔ maxCapacity < capacity := by
  rw [ofCapacity?, ite_eq_right_iff, room_le_iff, ← Nat.not_le]
  exact imp_congr_right fun _ => iff_of_false (Option.some_ne_none _) id

theorem ofCapacity?_eq_some_iff :
    ofCapacity? capacity = some h ↔ capacity ≤ maxCapacity ∧ h = empty (max capacity 1) := by
  rw [ofCapacity?, Option.ite_none_right_eq_some, room_le_iff, Option.some.injEq, eq_comm]

theorem ofCapacity?_defaultCapacity : ofCapacity? defaultCapacity = some (empty defaultCapacity) :=
  ofCapacity?_of_le (by decide)

variable (hroom : 0 < room)

include hroom

theorem push_empty (t : Text) : (empty room).push t = (Zipper.mk [] t []).toHistory room := by
  simp [push, push?, empty, current?, kept, Nat.not_lt.2 hroom, Zipper.toHistory, Zipper.entries]

theorem sound_push_empty (ht : Marker.Unmarked t) : ((empty room).push t).Sound := by
  rw [push_empty hroom, sound_toHistory]
  exact ⟨hroom, List.isChain_singleton t, by simpa [Zipper.entries] using ht⟩

theorem current?_push_empty (t : Text) : ((empty room).push t).current? = some t := by
  rw [push_empty hroom, Zipper.current?_toHistory]

theorem undo?_push_empty (t : Text) : ((empty room).push t).undo? = none := by
  rw [push_empty hroom]
  rfl

/-- With two snapshots there is one undo, if there is room for both and they differ. -/
theorem undo?_push_push_empty (s t : Text) :
    (((empty room).push s).push t).undo? =
      if room ≤ 1 ∨ t = s then none else some ((Zipper.mk [] s [t]).toHistory room) := by
  have hfits : (Zipper.mk [] s []).past.length < room := hroom
  rw [push_empty hroom, Zipper.push_toHistory _ _ hfits, Zipper.undo?_toHistory, Zipper.push,
    Zipper.push?]
  by_cases ht : t = s
  · rw [if_pos ht, if_pos (.inr ht)]
    rfl
  rw [if_neg ht]
  by_cases hc : room ≤ 1
  · obtain rfl : room = 1 := Nat.le_antisymm hc hroom
    rw [if_pos (.inl hc)]
    rfl
  · obtain ⟨room, rfl⟩ := Nat.exists_eq_add_of_le' (Nat.lt_of_not_le hc)
    have hkept : ([] ++ [s]).rtake (room + 1) = [s] := by
      rw [List.rtake_concat_succ, List.rtake_nil, List.nil_append]
    rw [if_neg (not_or_intro hc ht)]
    change (Zipper.undo? ⟨([] ++ [s]).rtake (room + 1), t, []⟩).map (·.toHistory (room + 2)) = _
    rw [hkept]
    rfl

end New

section Made

variable {capacity : Nat} (hh : ofCapacity? capacity = some h)

include hh

theorem sound_push_of_ofCapacity? (ht : Marker.Unmarked t) : (h.push t).Sound := by
  obtain ⟨-, rfl⟩ := ofCapacity?_eq_some_iff.1 hh
  exact sound_push_empty (Nat.le_max_right capacity 1) ht

theorem current?_push_of_ofCapacity? (t : Text) : (h.push t).current? = some t := by
  obtain ⟨-, rfl⟩ := ofCapacity?_eq_some_iff.1 hh
  exact current?_push_empty (Nat.le_max_right capacity 1) t

end Made

theorem Sound.current?_push (hs : h.Sound) (t : Text) : (h.push t).current? = some t := by
  obtain ⟨z, hz⟩ := hs.exists_zipper
  rw [hz] at hs ⊢
  rw [Zipper.push_toHistory z _ hs.length_past_lt, Zipper.current?_toHistory, Zipper.push,
    Zipper.push?]
  split_ifs with ht <;> simp [ht]

@[simp] theorem capacity_push (h : History) (t : Text) : (h.push t).capacity = h.capacity := by
  simp only [push, push?]
  split_ifs <;> rfl

theorem push_of_current? (ht : h.current? = some t) : h.push t = h := by
  rw [push, push?, if_pos ht, Option.getD_none]

theorem Sound.undo?_push (hs : h.Sound) (hc : 2 ≤ h.capacity) (ht : h.current? ≠ some t) :
    ∃ k, (h.push t).undo? = some k ∧ k.current? = h.current? ∧ k.redo? = some (h.push t) := by
  obtain ⟨room, hroom⟩ := Nat.exists_eq_add_of_le' hc
  obtain ⟨z, hz⟩ := hs.exists_zipper
  rw [hroom] at hz
  subst hz
  have hne : t ≠ z.current := by
    rintro rfl
    exact ht (z.current?_toHistory _)
  have hp : z.push (room + 2) t = ⟨z.past.rtake room ++ [z.current], t, []⟩ := by
    simp [Zipper.push, Zipper.push?, hne]
  have hu : (z.push (room + 2) t).undo? = some ⟨z.past.rtake room, z.current, [t]⟩ := by
    rw [hp, Zipper.undo?_eq_some_iff]
    exact ⟨rfl, rfl⟩
  rw [Zipper.push_toHistory z _ hs.length_past_lt]
  refine ⟨_, by rw [Zipper.undo?_toHistory, hu]; rfl, by simp, ?_⟩
  rw [Zipper.redo?_toHistory, Zipper.redo?_of_undo? hu]
  rfl

end Dictation.History
