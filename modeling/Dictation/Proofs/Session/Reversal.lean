import Dictation.Proofs.Session.Invariant

namespace Dictation

theorem Shift.of_edited {d e : Document} {h k : History} {spans : List Span}
    {v : Option Marker.Violation}
    (hd : Shift d h (some (.ok (.edited spans v))) e k) :
    k = (h.push d.snapshot).push e.snapshot := by
  cases hd with
  | stay hr => cases hr _ rfl
  | snapshot ho => cases ho
  | commit he v => rfl

namespace Session

variable {s t : Session} {k : History}

theorem undo_of_undo? (hk : s.history.undo? = some k) : s.undo = s.restore k .undone := by
  rw [undo, hk]

theorem redo_of_redo? (hk : s.history.redo? = some k) : s.redo = s.restore k .redone := by
  rw [redo, hk]

/-- What an edit leaves behind it, whichever operation it comes from. -/
theorem history_of_edited {o : Operation} {spans : List Span} {v : Option Marker.Violation}
    (he : s.operate o = (t, some (.ok (.edited spans v)))) :
    t.history = (s.history.push s.document.snapshot).push t.document.snapshot := by
  have ho : ∀ d, o ≠ .replaceDocument d false := by
    rintro d rfl
    cases he
  have hshift := s.shifts_operate o ho
  rw [he] at hshift
  exact hshift.of_edited

/-- An edit that changes the text is undone to the old text and redone to the new one, with the
caret at the end; one that does not leaves a history in step with its document alone. -/
theorem undo_redo_of_edited {o : Operation} {spans : List Span} {v : Option Marker.Violation}
    (hs : Reachable s) (he : s.operate o = (t, some (.ok (.edited spans v)))) :
    (2 ≤ s.history.capacity → t.document.snapshot ≠ s.document.snapshot →
      ∃ u r : Session,
        t.undo = (u, .undone (changes t.document.buffer s.document.snapshot)) ∧
        u.document = .atEnd s.document.snapshot ∧
        u.redo = (r, .redone (changes s.document.snapshot t.document.snapshot)) ∧
        r.document = .atEnd t.document.snapshot ∧ r.history = t.history) ∧
    (t.document.snapshot = s.document.snapshot → s.history.current? = some s.document.snapshot →
      t.history = s.history) := by
  have ht := history_of_edited he
  constructor
  · intro hc hne
    -- The first push makes the old text current even where the history was out of
    -- step, so the second one is new.
    have hold := hs.sound.current?_push s.document.snapshot
    have hmid := History.sound_push hs.sound s.document.unmarked_snapshot
    obtain ⟨k, hu, hk, hr⟩ := hmid.undo?_push (t := t.document.snapshot) (by simpa using hc)
      (by rw [hold]; simpa using hne.symm)
    have hnew := hmid.current?_push t.document.snapshot
    rw [← ht] at hu hr hnew
    rw [hold] at hk
    refine ⟨(t.restore k .undone).1, ((t.restore k .undone).1.restore t.history .redone).1, ?_, ?_,
      ?_, ?_, ?_⟩
    · rw [undo_of_undo? hu]
      simp [restore, hk, Document.atEnd]
    · simp [restore, hk]
    · rw [redo_of_redo? hr]
      simp [restore, hk, hnew, Document.atEnd]
    · simp [restore, hnew]
    · rfl
  · intro heq hstep
    rw [ht, heq, History.push_of_current? hstep, History.push_of_current? hstep]

theorem undo_redo_of_edited_by_service :
    let s₀ : Session := { start ⟨[], []⟩ (.atEnd ['a']) with
      history := (History.empty 2).push ['a'] }
    let s := s₀.replaceDocument ⟨['b'], ⟨1, 1⟩⟩ false
    let o : Operation := .execute (fun _ => .ok ['c']) []
    let t := (s.operate o).1
    let s' := start ⟨[], []⟩ (.atEnd ['a'])
    let o' : Operation := .execute (fun _ => .ok (Marker.startMark ++ Marker.stopMark ++ ['a'])) []
    let t' := (s'.operate o').1
    (Reachable s ∧ s.operate o = (t, some (.ok (.edited [⟨0, 1⟩] (some .absent)))) ∧
      2 ≤ s.history.capacity ∧ t.document.snapshot ≠ s.document.snapshot) ∧
    (∃ u r : Session, t.undo = (u, .undone [⟨0, 1⟩]) ∧ u.document = .atEnd ['b'] ∧
      u.redo = (r, .redone [⟨0, 1⟩]) ∧ r.document = .atEnd ['c'] ∧ r.history = t.history) ∧
    (Reachable s' ∧ s'.operate o' = (t', some (.ok (.edited [] none))) ∧
      t'.document.snapshot = s'.document.snapshot ∧
      s'.history.current? = some s'.document.snapshot) ∧
    t'.history = s'.history := by
  intro s₀ s o t s' o' t'
  have hmade : (start ⟨[], []⟩ (.atEnd ['a'])).withCapacity? 2 = some s₀ :=
    withCapacity?_eq_some_iff.2 ⟨_, History.ofCapacity?_of_le (by decide), rfl⟩
  have hs : Reachable s :=
    ⟨s₀, [.replaceDocument ⟨['b'], ⟨1, 1⟩⟩ false], .withCapacity (.start _ _) 2 hmade, rfl⟩
  have he : s.operate o = (t, some (.ok (.edited [⟨0, 1⟩] (some .absent)))) := by rfl
  have hc : 2 ≤ s.history.capacity := by decide
  have hne : t.document.snapshot ≠ s.document.snapshot := by decide
  have hs' : Reachable s' := ⟨_, [], .start _ _, rfl⟩
  have he' : s'.operate o' = (t', some (.ok (.edited [] none))) := by rfl
  have heq : t'.document.snapshot = s'.document.snapshot := by decide
  have hstep : s'.history.current? = some s'.document.snapshot := by decide
  exact ⟨⟨hs, he, hc, hne⟩, (undo_redo_of_edited hs he).1 hc hne, ⟨hs', he', heq, hstep⟩,
    (undo_redo_of_edited hs' he').2 heq hstep⟩

end Session

end Dictation
