import Dictation.History
import Mathlib.Data.List.DropRight
import Mathlib.Data.List.Chain

namespace Dictation.History

structure Zipper where
  past : List Text
  current : Text
  future : List Text
  deriving DecidableEq, Repr

namespace Zipper

def entries (z : Zipper) : List Text := z.past ++ z.current :: z.future

def push? (room : Nat) (z : Zipper) (snapshot : Text) : Option Zipper :=
  if snapshot = z.current then none
  else some ⟨(z.past ++ [z.current]).rtake (room - 1), snapshot, []⟩

def push (room : Nat) (z : Zipper) (snapshot : Text) : Zipper := (z.push? room snapshot).getD z

def undo? (z : Zipper) : Option Zipper :=
  z.past.getLast?.map fun t => ⟨z.past.dropLast, t, z.current :: z.future⟩

def redo? : Zipper → Option Zipper
  | ⟨_, _, []⟩ => none
  | ⟨past, current, t :: future⟩ => some ⟨past ++ [current], t, future⟩

def toHistory (z : Zipper) (capacity : Nat) : History := ⟨z.entries, some z.past.length, capacity⟩

variable (z : Zipper) (capacity : Nat)

@[simp] theorem length_entries : z.entries.length = z.past.length + (z.future.length + 1) := by
  simp [entries]

@[simp] theorem capacity_toHistory : (z.toHistory capacity).capacity = capacity := rfl

@[simp] theorem current?_toHistory : (z.toHistory capacity).current? = some z.current := by
  simp [toHistory, entries, current?]

@[simp] theorem kept_toHistory : (z.toHistory capacity).kept = z.past ++ [z.current] := by
  simp [toHistory, entries, kept, List.take_append, List.take_of_length_le]

@[simp] theorem canUndo_toHistory : (z.toHistory capacity).canUndo = !z.past.isEmpty := by
  cases hp : z.past <;> simp [toHistory, canUndo, hp]

@[simp] theorem canRedo_toHistory : (z.toHistory capacity).canRedo = !z.future.isEmpty := by
  cases hf : z.future <;> simp [toHistory, canRedo, hf]

/-- A push on a history that is not too long does what it does on the zipper: dropping the oldest
entry of a full history leaves as many earlier snapshots as there is room for. -/
theorem push?_toHistory (hz : z.past.length < capacity) (t : Text) :
    (z.toHistory capacity).push? t = (z.push? capacity t).map (·.toHistory capacity) := by
  by_cases ht : t = z.current
  · simp [History.push?, push?, ht]
  have hne : ¬(z.toHistory capacity).current? = some t := by simp [Ne.symm ht]
  have hl : (z.past ++ [z.current]).length = z.past.length + 1 := by simp
  have hl' : (z.past ++ [z.current] ++ [t]).length = z.past.length + 2 := by simp
  simp only [History.push?, push?, if_neg hne, if_neg ht, kept_toHistory, capacity_toHistory, hl',
    Option.map_some]
  by_cases hfull : capacity < z.past.length + 2
  -- In a full history the oldest entry goes, and the position stays where it was.
  · have hc : capacity = z.past.length + 1 := by omega
    have hr : (z.past ++ [z.current]).rtake (capacity - 1) = (z.past ++ [z.current]).drop 1 := by
      rw [List.rtake, hl, hc, Nat.add_sub_cancel, Nat.add_sub_cancel_left]
    rw [if_pos hfull, hr, List.drop_append_of_le_length (by omega)]
    simp [toHistory, entries]
  · have hr : (z.past ++ [z.current]).rtake (capacity - 1) = z.past ++ [z.current] := by
      rw [List.rtake, hl, Nat.sub_eq_zero_of_le (by omega), List.drop_zero]
    rw [if_neg hfull, hr]
    simp [toHistory, entries]

theorem push_toHistory (hz : z.past.length < capacity) (t : Text) :
    (z.toHistory capacity).push t = (z.push capacity t).toHistory capacity := by
  rw [History.push, push?_toHistory z capacity hz, push]
  cases z.push? capacity t <;> rfl

theorem undo?_toHistory :
    (z.toHistory capacity).undo? = z.undo?.map (·.toHistory capacity) := by
  obtain ⟨past, current, future⟩ := z
  cases past using List.reverseRecOn with
  | nil => rfl
  | append_singleton past t => simp [History.undo?, undo?, toHistory, entries]

theorem redo?_toHistory :
    (z.toHistory capacity).redo? = z.redo?.map (·.toHistory capacity) := by
  obtain ⟨past, current, future⟩ := z
  cases future with
  | nil => simp [History.redo?, redo?, toHistory, entries]
  | cons t future => simp [History.redo?, redo?, toHistory, entries]

variable {z capacity} {z' : Zipper}

theorem undo?_eq_some_iff :
    z.undo? = some z' ↔ z.past = z'.past ++ [z'.current] ∧ z'.future = z.current :: z.future := by
  obtain ⟨past, current, future⟩ := z
  obtain ⟨past', current', future'⟩ := z'
  cases past using List.reverseRecOn with
  | nil => simp [undo?]
  | append_singleton past t =>
    simp only [undo?, List.getLast?_concat, List.dropLast_concat, Option.map_some,
      Option.some.injEq, Zipper.mk.injEq]
    constructor
    · rintro ⟨rfl, rfl, rfl⟩
      exact ⟨rfl, rfl⟩
    · rintro ⟨hp, rfl⟩
      obtain ⟨rfl, ht⟩ := List.append_inj' hp rfl
      exact ⟨rfl, List.singleton_inj.1 ht, rfl⟩

theorem redo?_eq_some_iff :
    z.redo? = some z' ↔ z'.past = z.past ++ [z.current] ∧ z.future = z'.current :: z'.future := by
  obtain ⟨past, current, future⟩ := z
  obtain ⟨past', current', future'⟩ := z'
  cases future with
  | nil => simp [redo?]
  | cons t future =>
    simp only [redo?, Option.some.injEq, Zipper.mk.injEq, List.cons.injEq]
    constructor
    · rintro ⟨rfl, rfl, rfl⟩
      exact ⟨rfl, rfl, rfl⟩
    · rintro ⟨rfl, rfl, rfl⟩
      exact ⟨rfl, rfl, rfl⟩

theorem redo?_of_undo? (h : z.undo? = some z') : z'.redo? = some z :=
  redo?_eq_some_iff.2 (undo?_eq_some_iff.1 h)

theorem entries_of_undo? (h : z.undo? = some z') : z'.entries = z.entries := by
  obtain ⟨hp, hf⟩ := undo?_eq_some_iff.1 h
  simp [entries, hp, hf]

theorem entries_of_redo? (h : z.redo? = some z') : z'.entries = z.entries := by
  obtain ⟨hp, hf⟩ := redo?_eq_some_iff.1 h
  simp [entries, hp, hf]

/-- After a push the snapshots are the latest of those up to the current one, with the new one. -/
theorem entries_of_push? (hc : 0 < capacity) {t : Text} (h : z.push? capacity t = some z') :
    z'.entries = (z.past ++ [z.current] ++ [t]).rtake capacity := by
  simp only [push?, Option.ite_none_left_eq_some, Option.some.injEq] at h
  obtain ⟨-, rfl⟩ := h
  obtain ⟨room, rfl⟩ := Nat.exists_eq_succ_of_ne_zero hc.ne'
  rw [Nat.succ_eq_add_one, List.rtake_concat_succ]
  rfl

theorem length_past_lt (hz : z.entries.length ≤ capacity) : z.past.length < capacity := by
  rw [length_entries] at hz
  omega

theorem length_of_push? (hc : 0 < capacity) {t : Text} (h : z.push? capacity t = some z') :
    z'.entries.length ≤ capacity := by
  rw [entries_of_push? hc h, List.rtake, List.length_drop]
  omega

theorem length_push (hc : 0 < capacity) (hz : z.entries.length ≤ capacity) (t : Text) :
    (z.push capacity t).entries.length ≤ capacity := by
  rw [push]
  cases hp : z.push? capacity t with
  | none => exact hz
  | some y => exact length_of_push? hc hp

end Zipper

end Dictation.History
