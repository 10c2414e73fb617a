import Dictation.Proofs.Session.Reversal

namespace Dictation

theorem History.Sound.redo?_of_undo? {h k : History} (hs : h.Sound) (hk : h.undo? = some k) :
    k.redo? = some h := by
  obtain ⟨z, hz⟩ := hs.exists_zipper
  rw [hz, Zipper.undo?_toHistory, Option.map_eq_some_iff] at hk
  obtain ⟨y, hy, rfl⟩ := hk
  rw [Zipper.redo?_toHistory, Zipper.redo?_of_undo? hy, hz]
  rfl

/-- Whatever moves the document puts the history in step with it, also where it was not before. -/
theorem Shift.inStep_of_moved {d e : Document} {h k : History} {o : Outcome}
    (hd : Shift d h (some (.ok o)) e k) (hs : h.Sound) (ho : o.leavesDocument = false) :
    InStep e k := by
  cases hd with
  | stay hr =>
    have hleaves := hr o rfl
    rw [ho] at hleaves
    cases hleaves
  | snapshot hleaves =>
    rw [ho] at hleaves
    cases hleaves
  | commit he v => exact (History.sound_push hs d.unmarked_snapshot).current?_push e.snapshot
  | undo hk he => exact he ▸ (History.sound_undo? hs hk).inStep_atEnd
  | redo hk he => exact he ▸ (History.sound_redo? hs hk).inStep_atEnd

namespace Session

variable {s u : Session} {spans : List Span}

def Settles (s : Session) (o : Operation) : Prop :=
  (∃ d, o = .replaceDocument d true) ∨ ∃ c, (s.operate o).2 = some (.ok c) ∧
    c.leavesDocument = false

theorem inStep_of_settles {o : Operation} (hs : s.history.Sound) (ho : s.Settles o) :
    InStep (s.operate o).1.document (s.operate o).1.history := by
  obtain ⟨d, rfl⟩ | ⟨c, hc, hmoves⟩ := ho
  · exact hs.current?_push _
  · have hrecorded : ∀ d, o ≠ .replaceDocument d false := by
      rintro d rfl
      cases hc
    have hshift := s.shifts_operate o hrecorded
    rw [Shifts, hc] at hshift
    exact hshift.inStep_of_moved hs hmoves

theorem exists_undo?_of_undone (hu : s.undo = (u, .undone spans)) :
    ∃ k, s.history.undo? = some k ∧ u = (s.restore k .undone).1 := by
  rw [undo] at hu
  cases hk : s.history.undo? with
  | none =>
    rw [hk] at hu
    cases hu
  | some k =>
    rw [hk] at hu
    exact ⟨k, rfl, (congrArg Prod.fst hu).symm⟩

/-- After an undo a redo brings back the snapshot that was current before, and the whole history.
That is the text the document had exactly where the history was in step with it: as long as no
document was taken over without a record, and again from the next document on that is put in place
otherwise. -/
theorem redo_of_undone (hs : Reachable s) (hu : s.undo = (u, .undone spans)) :
    (∃ (t : Text) (r : Session), s.history.current? = some t ∧
      u.redo = (r, .redone (changes u.document.buffer t)) ∧ r.document = .atEnd t ∧
        r.history = s.history ∧
      (r.document.buffer = Marker.strip s.document.buffer ↔ InStep s.document s.history)) ∧
    (∀ s₀ os, Started s₀ → s = s₀.run os → (∀ d, .replaceDocument d false ∉ os) →
      InStep s.document s.history) ∧
    ∀ s₀ o os, Reachable s₀ → s₀.Settles o → s = (s₀.operate o).1.run os →
      (∀ d, .replaceDocument d false ∉ os) → InStep s.document s.history := by
  refine ⟨?_, ?_, ?_⟩
  · obtain ⟨k, hk, rfl⟩ := exists_undo?_of_undone hu
    obtain ⟨t, ht⟩ := hs.sound.exists_current?
    have hredo := redo_of_redo? (s := (s.restore k .undone).1) (hs.sound.redo?_of_undo? hk)
    refine ⟨t, ((s.restore k .undone).1.restore s.history .redone).1, ht, ?_, ?_, rfl, ?_⟩
    · rw [hredo]
      simp [restore, ht, Document.atEnd]
    · simp [restore, ht]
    · have hbuffer : ((s.restore k .undone).1.restore s.history .redone).1.document.buffer = t := by
        simp [restore, ht, Document.atEnd]
      rw [hbuffer, InStep, ht, Option.some_inj]
      rfl
  · rintro s₀ os hs₀ rfl hrecorded
    exact inStep_run os hs₀.sound hs₀.inStep hrecorded
  · rintro s₀ o os hs₀ ho rfl hrecorded
    exact inStep_run os (sound_operate hs₀.sound o) (inStep_of_settles hs₀.sound ho) hrecorded

theorem redo_of_undone_after_edit :
    let s₀ := (start ⟨[], []⟩ (.atEnd ['a'])).replaceDocument ⟨['b'], ⟨1, 1⟩⟩ false
    let o : Operation := .execute (fun _ => .ok ['c']) []
    let s := (s₀.operate o).1
    (Reachable s ∧ s.undo = (s.undo.1, .undone [⟨0, 1⟩]) ∧ Reachable s₀ ∧ s₀.Settles o ∧
      s₀.history.current? ≠ some s₀.document.snapshot) ∧
    InStep s.document s.history ∧
    ∃ r : Session, s.undo.1.redo = (r, .redone (changes s.undo.1.document.buffer ['c'])) ∧
      r.document = .atEnd ['c'] ∧ r.history = s.history := by
  intro s₀ o s
  have hs₀ : Reachable s₀ := ⟨_, [.replaceDocument ⟨['b'], ⟨1, 1⟩⟩ false], .start _ _, rfl⟩
  have hs : Reachable s := hs₀.run [o]
  have hu : s.undo = (s.undo.1, .undone [⟨0, 1⟩]) := Prod.ext rfl (by decide)
  have ho : s₀.Settles o := .inr ⟨.edited [⟨0, 1⟩] (some .absent), rfl, rfl⟩
  have hout : s₀.history.current? ≠ some s₀.document.snapshot := by decide
  have hcurrent : s.history.current? = some ['c'] := by decide
  obtain ⟨⟨t, r, ht, hr, hd, hh, -⟩, -, hstep⟩ := redo_of_undone hs hu
  obtain rfl := Option.some.inj (hcurrent.symm.trans ht)
  refine ⟨⟨hs, hu, hs₀, ho, hout⟩, ?_, r, hr, hd, hh⟩
  exact hstep s₀ o [] hs₀ ho rfl fun d => List.not_mem_nil

/-- Not every text comes back: one that was taken over without a record does not. -/
theorem not_redo_of_undone_unrecorded :
    ¬∀ s : Session, Reachable s → ∀ u spans, s.undo = (u, .undone spans) →
      ∃ r spans', u.redo = (r, .redone spans') ∧
        r.document.buffer = Marker.strip s.document.buffer := by
  intro h
  let s₀ := start ⟨[], []⟩ (.atEnd ['a'])
  let os : List Operation :=
    [.replaceDocument ⟨['b'], ⟨1, 1⟩⟩ true, .replaceDocument ⟨['c'], ⟨1, 1⟩⟩ false]
  have hs : Reachable (s₀.run os) := ⟨s₀, os, .start _ _, rfl⟩
  have hu : (s₀.run os).undo = ((s₀.run os).undo.1, .undone [⟨0, 1⟩]) := Prod.ext rfl (by decide)
  obtain ⟨r, spans', hr, hbuffer⟩ := h (s₀.run os) hs _ _ hu
  have hne : (s₀.run os).undo.1.redo.1.document.buffer ≠
      Marker.strip (s₀.run os).document.buffer := by decide
  rw [hr] at hne
  exact hne hbuffer

end Session

end Dictation
