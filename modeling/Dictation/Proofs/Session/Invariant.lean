import Dictation.Proofs.History.Sound
import Dictation.Proofs.Session.Run

namespace Dictation

theorem Document.unmarked_snapshot (d : Document) : Marker.Unmarked d.snapshot :=
  Marker.unmarked_strip d.buffer

theorem Document.snapshot_atEnd {t : Text} (ht : Marker.Unmarked t) : (atEnd t).snapshot = t :=
  Marker.strip_of_unmarked ht

/-- The current snapshot is that of the document. -/
def InStep (d : Document) (h : History) : Prop := h.current? = some d.snapshot

namespace History

variable {h k : History}

theorem Sound.unmarked_of_current? (hs : h.Sound) {t : Text} (ht : h.current? = some t) :
    Marker.Unmarked t := by
  obtain ⟨i, -, hi⟩ := Option.bind_eq_some_iff.1 ht
  exact hs.unmarked t (List.mem_of_getElem? hi)

theorem Sound.exists_current? (hs : h.Sound) : ∃ t, h.current? = some t := by
  obtain ⟨z, hz⟩ := hs.exists_zipper
  exact ⟨z.current, by rw [hz, Zipper.current?_toHistory]⟩

theorem Sound.inStep_atEnd (hs : h.Sound) : InStep (.atEnd (h.current?.getD [])) h := by
  obtain ⟨t, ht⟩ := hs.exists_current?
  rw [InStep, ht, Option.getD_some, Document.snapshot_atEnd (hs.unmarked_of_current? ht)]

end History

section Shift

variable {d e : Document} {h k : History} {r : Option (Except Fault Outcome)}

theorem Shift.sound (hd : Shift d h r e k) (hs : h.Sound) : k.Sound := by
  cases hd with
  | stay hr => exact hs
  | snapshot ho => exact History.sound_push hs d.unmarked_snapshot
  | commit he v =>
    exact History.sound_push (History.sound_push hs d.unmarked_snapshot) e.unmarked_snapshot
  | undo hk he => exact History.sound_undo? hs hk
  | redo hk he => exact History.sound_redo? hs hk
  | replace he => exact History.sound_push hs e.unmarked_snapshot

theorem Shift.valid (hd : Shift d h r e k) (hv : d.selection.Valid d.buffer) :
    e.selection.Valid e.buffer := by
  cases hd with
  | stay hr => exact hv
  | snapshot ho => exact hv
  | commit he v => exact he
  | undo hk he => exact he ▸ Document.valid_atEnd _
  | redo hk he => exact he ▸ Document.valid_atEnd _
  | replace he => exact he

theorem Shift.inStep (hd : Shift d h r e k) (hs : h.Sound) (hi : InStep d h) : InStep e k := by
  cases hd with
  | stay hr => exact hi
  | snapshot ho => exact hs.current?_push d.snapshot
  | commit he v => exact (History.sound_push hs d.unmarked_snapshot).current?_push e.snapshot
  | undo hk he => exact he ▸ (History.sound_undo? hs hk).inStep_atEnd
  | redo hk he => exact he ▸ (History.sound_redo? hs hk).inStep_atEnd
  | replace he => exact hs.current?_push e.snapshot

end Shift

namespace Session

variable {s : Session}

theorem Started.sound (hs : Started s) : s.history.Sound := by
  induction hs with
  | start rules d => exact History.sound_push_empty (Nat.succ_pos _) d.unmarked_snapshot
  | ofSettings settings rules stored hs =>
    obtain ⟨-, rfl⟩ := Settings.start?_eq_some_iff.1 hs
    exact History.sound_push_empty (Nat.le_max_right _ 1) (Document.unmarked_snapshot _)
  | withCapacity hs capacity ht ih =>
    obtain ⟨h, hh, rfl⟩ := withCapacity?_eq_some_iff.1 ht
    exact History.sound_push_of_ofCapacity? hh (Document.unmarked_snapshot _)
  | withAutoProcess hs autoProcess ih => exact ih
  | withPrompt hs prompt ih => exact ih

theorem Started.inStep (hs : Started s) : InStep s.document s.history := by
  induction hs with
  | start rules d => exact History.current?_push_empty (Nat.succ_pos _) _
  | ofSettings settings rules stored hs =>
    obtain ⟨-, rfl⟩ := Settings.start?_eq_some_iff.1 hs
    exact History.current?_push_empty (Nat.le_max_right _ 1) _
  | withCapacity hs capacity ht ih =>
    obtain ⟨h, hh, rfl⟩ := withCapacity?_eq_some_iff.1 ht
    exact History.current?_push_of_ofCapacity? hh _
  | withAutoProcess hs autoProcess ih => exact ih
  | withPrompt hs prompt ih => exact ih

theorem sound_operate (hs : s.history.Sound) (o : Operation) : (s.operate o).1.history.Sound := by
  by_cases ho : ∃ d, o = .replaceDocument d false
  · obtain ⟨d, rfl⟩ := ho
    exact hs
  · exact (s.shifts_operate o (not_exists.1 ho)).sound hs

theorem valid_operate (hv : s.document.selection.Valid s.document.buffer) (o : Operation) :
    (s.operate o).1.document.selection.Valid (s.operate o).1.document.buffer := by
  by_cases ho : ∃ d, o = .replaceDocument d false
  · obtain ⟨d, rfl⟩ := ho
    exact Document.valid_ofParts _ _
  · exact (s.shifts_operate o (not_exists.1 ho)).valid hv

variable (os : List Operation)

theorem sound_run (hs : s.history.Sound) : (s.run os).history.Sound := by
  induction os generalizing s with
  | nil => exact hs
  | cons o os ih => exact ih (sound_operate hs o)

theorem valid_run (hv : s.document.selection.Valid s.document.buffer) :
    (s.run os).document.selection.Valid (s.run os).document.buffer := by
  induction os generalizing s with
  | nil => exact hv
  | cons o os ih => exact ih (valid_operate hv o)

theorem inStep_run (hs : s.history.Sound) (hi : InStep s.document s.history)
    (ho : ∀ d, .replaceDocument d false ∉ os) : InStep (s.run os).document (s.run os).history := by
  induction os generalizing s with
  | nil => exact hi
  | cons o os ih =>
    have hshift := s.shifts_operate o fun d h => ho d (h ▸ List.mem_cons_self)
    exact ih (hshift.sound hs) (hshift.inStep hs hi) fun d h => ho d (List.mem_cons_of_mem o h)

theorem Reachable.sound (hs : Reachable s) : s.history.Sound := by
  obtain ⟨s₀, os, hs₀, rfl⟩ := hs
  exact sound_run os hs₀.sound

/-- What holds after every run of a session that started with a valid selection. -/
theorem invariant_of_run (hs : Started s) (hv : s.document.selection.Valid s.document.buffer) :
    (s.run os).history.Sound ∧
      (s.run os).document.selection.Valid (s.run os).document.buffer ∧
      (s.run os).document.selection.stop ≤ (s.run os).document.buffer.size ∧
      ((∀ d, .replaceDocument d false ∉ os) →
        (s.run os).history.current? = some (Marker.strip (s.run os).document.buffer)) :=
  ⟨sound_run os hs.sound, valid_run os hv, (valid_run os hv).stop_le,
    inStep_run os hs.sound hs.inStep⟩

theorem invariant_of_run_at_capacity_one :
    let d : Document := ⟨['a', Marker.startBase], ⟨1, 5⟩⟩
    let s : Session := { start ⟨[], []⟩ d with history := (History.empty 1).push d.snapshot }
    let os : List Operation := [.process ['b'], .undo, .replaceDocument ⟨['c'], ⟨7, 0⟩⟩ true, .redo]
    ((start ⟨[], []⟩ d).withCapacity? 1 = some s ∧ Started s ∧
      s.document.selection.Valid s.document.buffer ∧ ∀ d, .replaceDocument d false ∉ os) ∧
      (s.run os).history.Sound ∧ (s.run os).document.selection.Valid (s.run os).document.buffer ∧
      (s.run os).history.current? = some (Marker.strip (s.run os).document.buffer) := by
  intro d s os
  have hmade : (start ⟨[], []⟩ d).withCapacity? 1 = some s :=
    withCapacity?_eq_some_iff.2 ⟨_, History.ofCapacity?_of_le (by decide), rfl⟩
  have hs : Started s := .withCapacity (.start _ d) 1 hmade
  have hv : s.document.selection.Valid s.document.buffer :=
    Selection.valid_append ['a'] [Marker.startBase] []
  have ho : ∀ d, .replaceDocument d false ∉ os := by simp [os]
  obtain ⟨hsound, hvalid, -, hstep⟩ := invariant_of_run os hs hv
  exact ⟨⟨hmade, hs, hv, ho⟩, hsound, hvalid, hstep ho⟩

end Session

end Dictation
