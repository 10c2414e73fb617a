import Dictation.Proofs.Session.Hearing
import Dictation.Proofs.Session.Run

namespace Dictation.Session

/-- What happens to the segment of a session by all that does not take text in: it may be closed but
not opened again, listening may be switched off but not on, and the pending text is kept or cleared.
-/
structure Onward (s t : Session) : Prop where
  ignoring : s.ignoring = true → t.ignoring = true
  listening : s.listening = false → t.listening = false
  pending : t.pending = s.pending ∨ t.pending = []

variable {s t : Session}

theorem Onward.refl (s : Session) : Onward s s := ⟨id, id, .inl rfl⟩

theorem Onward.of_document (s : Session) (d : Document) (h : History) :
    Onward s { s with document := d, history := h } := ⟨id, id, .inl rfl⟩

theorem onward_endSegment (s : Session) : Onward s s.endSegment := ⟨fun _ => rfl, id, .inr rfl⟩

variable (s)

theorem onward_undo : Onward s s.undo.1 := by
  rw [undo]
  cases s.history.undo? with
  | none => exact .refl s
  | some k => exact .of_document s _ _

theorem onward_redo : Onward s s.redo.1 := by
  rw [redo]
  cases s.history.redo? with
  | none => exact .refl s
  | some k => exact .of_document s _ _

theorem onward_perform (c : Command) : Onward s (s.perform c).1 := by
  cases c with
  | undo => exact s.onward_undo
  | redo => exact s.onward_redo
  | stop => exact ⟨id, fun _ => rfl, .inl rfl⟩
  | discard => exact s.onward_endSegment
  | process | execute => exact ⟨id, id, .inr rfl⟩

theorem onward_apply (rule : Option Rule) (text : Text) : Onward s (s.apply rule text).1 := by
  rw [apply]
  cases s.document.effect rule text with
  | error f => exact .refl s
  | ok e =>
    cases e with
    | edit d v => exact .of_document s _ _
    | command c => exact s.onward_perform c
    | unchanged => exact .refl s

theorem onward_process (text : Text) : Onward s (s.process text).1 := by
  rw [process]
  split
  · exact .refl s
  · exact s.onward_apply _ _

theorem onward_takeTranscription (text : Text) (execute : Bool) :
    Onward s (s.takeTranscription text execute).1 := by
  rw [takeTranscription]
  split
  · exact .refl s
  · exact s.onward_process _

theorem onward_execute (service : Request → Except Fault Text) (instruction : Text) :
    Onward s (s.execute service instruction).1 := by
  rw [execute]
  split
  · exact .refl s
  · exact .of_document s _ _

variable {s} {text : Text} {final : Bool}

/-- What fires closes the segment before anything else happens, so it is closed even when a rule
fails. -/
theorem onward_hear_of_fires (hs : s.Hears) (hr : s.rules.route (s.transcript text) ≠ .dictation)
    (final : Bool) : Onward s.endSegment (s.hear text final).1 := by
  cases h : s.rules.route (s.transcript text) with
  | process before => exact hear_of_process hs h ▸ .refl _
  | execute before => exact hear_of_execute hs h ▸ .refl _
  | discard => exact hear_of_discard hs h ▸ .refl _
  | rule r => exact hear_of_rule hs h ▸ s.endSegment.onward_apply _ _
  | dictation => exact absurd h hr

theorem onward_hear (s : Session) (text : Text) (final : Bool) :
    Onward s (s.hear text final).1 ∨
      (s.hear text final).1 = { s with pending := s.transcript text } := by
  by_cases hs : s.Hears
  · by_cases hr : s.rules.route (s.transcript text) = .dictation
    · cases final with
      | false =>
        rw [hear_interim_of_dictation hs hr]
        exact .inl (.refl s)
      | true =>
        by_cases ha : s.autoProcess = true
        · rw [hear_final_of_autoProcess hs hr ha]
          have h := onward_process { s with pending := [] } (s.transcript text)
          exact .inl ⟨h.ignoring, h.listening, .inr (h.pending.elim id id)⟩
        · rw [hear_final_of_waits hs hr (Bool.eq_false_iff.2 ha)]
          exact .inr rfl
    · have h := onward_hear_of_fires hs hr final
      exact .inl ⟨fun _ => h.ignoring rfl, h.listening, .inr (h.pending.elim id id)⟩
  · rw [hear_of_not_hears hs]
    exact .inl (.refl s)

theorem pending_hear_of_autoProcess (ha : s.autoProcess = true) (hp : s.pending = [])
    (text : Text) : (s.hear text true).1.pending = [] := by
  by_cases hs : s.Hears
  · by_cases hr : s.rules.route (s.transcript text) = .dictation
    · rw [hear_final_of_autoProcess hs hr ha]
      exact (onward_process { s with pending := [] } _).pending.elim id id
    · exact (onward_hear_of_fires hs hr true).pending.elim id id
  · rw [hear_of_not_hears hs, hp]

section Operate

variable {o : Operation} {os : List Operation}

theorem ignoring_operate (hs : s.ignoring = true) (hb : o ≠ .beginSegment) (hl : o ≠ .listen) :
    (s.operate o).1.ignoring = true := by
  cases o with
  | hear text final =>
    rcases s.onward_hear text final with h | h
    · exact h.ignoring hs
    · exact (congrArg ignoring h).trans hs
  | process text => exact (s.onward_process text).ignoring hs
  | takeTranscription text execute => exact (s.onward_takeTranscription text execute).ignoring hs
  | execute service instruction => exact (s.onward_execute service instruction).ignoring hs
  | undo => exact s.onward_undo.ignoring hs
  | redo => exact s.onward_redo.ignoring hs
  | discard => rfl
  | beginSegment => exact absurd rfl hb
  | listen => exact absurd rfl hl
  | stop | reload rules | replaceDocument d record => exact hs

theorem listening_operate (hs : s.listening = false) (hl : o ≠ .listen) :
    (s.operate o).1.listening = false := by
  cases o with
  | hear text final =>
    rcases s.onward_hear text final with h | h
    · exact h.listening hs
    · exact (congrArg listening h).trans hs
  | process text => exact (s.onward_process text).listening hs
  | takeTranscription text execute => exact (s.onward_takeTranscription text execute).listening hs
  | execute service instruction => exact (s.onward_execute service instruction).listening hs
  | undo => exact s.onward_undo.listening hs
  | redo => exact s.onward_redo.listening hs
  | stop => rfl
  | listen => exact absurd rfl hl
  | discard | beginSegment | reload rules | replaceDocument d record => exact hs

theorem ignoring_run (hs : s.ignoring = true) (hb : .beginSegment ∉ os) (hl : .listen ∉ os) :
    (s.run os).ignoring = true := by
  induction os generalizing s with
  | nil => exact hs
  | cons o os ih =>
    rw [List.mem_cons, not_or] at hb hl
    exact ih (ignoring_operate hs (Ne.symm hb.1) (Ne.symm hl.1)) hb.2 hl.2

theorem listening_run (hs : s.listening = false) (hl : .listen ∉ os) :
    (s.run os).listening = false := by
  induction os generalizing s with
  | nil => exact hs
  | cons o os ih =>
    rw [List.mem_cons, not_or] at hl
    exact ih (listening_operate hs (Ne.symm hl.1)) hl.2

end Operate

theorem hear_of_ignoring (hs : s.ignoring = true) : s.hear text final = (s, .ok .ignored) :=
  hear_of_not_hears fun h => Bool.false_ne_true (h.2.symm.trans hs)

theorem hear_of_not_listening (hs : s.listening = false) : s.hear text final = (s, .ok .ignored) :=
  hear_of_not_hears fun h => Bool.false_ne_true (hs.symm.trans h.1)

/-- Once an utterance has fired, every later one is ignored and changes nothing until a new segment
begins; and once listening is off, every utterance is ignored until it is switched on. -/
theorem fires_once (s : Session) :
    (∀ text final, (s.hear text final).2 ≠ .ok .ignored →
      s.rules.route (s.transcript text) ≠ .dictation →
      ∀ os, .beginSegment ∉ os → .listen ∉ os → ∀ text' final',
        ((s.hear text final).1.run os).hear text' final' =
          ((s.hear text final).1.run os, .ok .ignored)) ∧
    (s.listening = false → ∀ os, .listen ∉ os →
      (s.run os).listening = false ∧
        ∀ text final, (s.run os).hear text final = (s.run os, .ok .ignored)) := by
  constructor
  · intro text final hne hr os hb hl text' final'
    have hs : s.Hears := by
      by_contra hs
      exact hne (by rw [hear_of_not_hears hs])
    have hclosed : (s.hear text final).1.ignoring = true :=
      (onward_hear_of_fires hs hr final).ignoring rfl
    exact hear_of_ignoring (ignoring_run hclosed hb hl)
  · intro hs os hl
    have hoff := listening_run hs hl
    exact ⟨hoff, fun text final => hear_of_not_listening hoff⟩

theorem fires_once_in_part :
    let r : Rule := ⟨['(', '?', '-', 'i', ')', 'x'], .substitution ['y'], 1⟩
    let s := start ⟨[r], []⟩ (.atEnd ['k'])
    let t := (s.hear ['x'] false).1.run [.undo, .process ['x'], .discard]
    let u := s.stop.1.run [.beginSegment, .redo]
    (s.rules.route (s.transcript ['x']) = .rule r ∧ (s.hear ['x'] false).2 ≠ .ok .ignored ∧
      t.hear ['x'] true = (t, .ok .ignored)) ∧
    s.stop.1.listening = false ∧ u.listening = false ∧ u.hear ['x'] true = (u, .ok .ignored) := by
  intro r s t u
  have hr : s.rules.route (s.transcript ['x']) = .rule r := by decide
  have he : (s.hear ['x'] false).2 ≠ .ok .ignored := by decide
  have hfires := (fires_once s).1 ['x'] false he (by rw [hr]; rintro ⟨⟩)
    [.undo, .process ['x'], .discard] (by simp) (by simp) ['x'] true
  have hoff := (fires_once s.stop.1).2 rfl [.beginSegment, .redo] (by simp)
  exact ⟨⟨hr, he, hfires⟩, rfl, hoff.1, hoff.2 ['x'] true⟩

end Dictation.Session
