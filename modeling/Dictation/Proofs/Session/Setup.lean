import Dictation.Proofs.Session.Run

namespace Dictation.Session

def setup (s : Session) : RuleSet × Nat × Bool × Text :=
  (s.rules, s.generation, s.autoProcess, s.prompt)

variable (s : Session)

theorem setup_undo : s.undo.1.setup = s.setup := by
  rw [undo]
  cases s.history.undo? <;> rfl

theorem setup_redo : s.redo.1.setup = s.setup := by
  rw [redo]
  cases s.history.redo? <;> rfl

theorem setup_perform (c : Command) : (s.perform c).1.setup = s.setup := by
  cases c with
  | undo => exact s.setup_undo
  | redo => exact s.setup_redo
  | stop | discard | process | execute => rfl

theorem setup_apply (rule : Option Rule) (text : Text) : (s.apply rule text).1.setup = s.setup := by
  rw [apply]
  cases s.document.effect rule text with
  | error f => rfl
  | ok e =>
    cases e with
    | edit d v => rfl
    | command c => exact s.setup_perform c
    | unchanged => rfl

theorem setup_process (text : Text) : (s.process text).1.setup = s.setup := by
  rw [process]
  split_ifs
  · rfl
  · exact s.setup_apply _ _

theorem setup_hear (text : Text) (final : Bool) : (s.hear text final).1.setup = s.setup := by
  rw [hear]
  split
  · rfl
  · dsimp only
    cases s.rules.route (s.transcript text) with
    | process before | execute before | discard => rfl
    | rule r => exact s.endSegment.setup_apply _ _
    | dictation =>
      dsimp only
      split_ifs
      · rfl
      · exact setup_process { s with pending := [] } _
      · rfl

theorem setup_takeTranscription (text : Text) (execute : Bool) :
    (s.takeTranscription text execute).1.setup = s.setup := by
  rw [takeTranscription]
  split_ifs
  · rfl
  · exact s.setup_process _

theorem setup_execute (service : Request → Except Fault Text) (instruction : Text) :
    (s.execute service instruction).1.setup = s.setup := by
  rw [execute]
  cases service ⟨s.prompt, Marker.tag s.document, instruction⟩ <;> rfl

variable {s}

theorem setup_operate {o : Operation} (ho : ∀ rules, o ≠ .reload rules) :
    (s.operate o).1.setup = s.setup := by
  cases o with
  | hear text final => exact s.setup_hear text final
  | process text => exact s.setup_process text
  | takeTranscription text execute => exact s.setup_takeTranscription text execute
  | execute service instruction => exact s.setup_execute service instruction
  | undo => exact s.setup_undo
  | redo => exact s.setup_redo
  | reload rules => exact absurd rfl (ho rules)
  | stop | discard | beginSegment | listen | replaceDocument d record => rfl

theorem setup_run {os : List Operation} (ho : ∀ rules, .reload rules ∉ os) :
    (s.run os).setup = s.setup := by
  induction os generalizing s with
  | nil => rfl
  | cons o os ih =>
    have hstep := setup_operate (s := s) (o := o) fun rules h => ho rules (h ▸ List.mem_cons_self)
    exact (ih fun rules h => ho rules (List.mem_cons_of_mem o h)).trans hstep

end Dictation.Session
