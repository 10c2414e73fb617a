import Dictation.Proofs.Session.Segment

namespace Dictation.Session

def isReversal : Except Fault Outcome → Bool
  | .ok (.undone _) | .ok (.redone _) | .ok .nothingToUndo | .ok .nothingToRedo => true
  | _ => false

/-- Two sessions that are the same apart from their histories. -/
structure Alike (s t : Session) : Prop where
  rules : t.rules = s.rules
  generation : t.generation = s.generation
  document : t.document = s.document
  listening : t.listening = s.listening
  ignoring : t.ignoring = s.ignoring
  pending : t.pending = s.pending
  autoProcess : t.autoProcess = s.autoProcess
  prompt : t.prompt = s.prompt

def AlikeSteps {α : Type} (p q : Session × α) : Prop := p.1.Alike q.1 ∧ q.2 = p.2

variable {s t : Session}

theorem alike_iff : s.Alike t ↔ ∃ h, t = { s with history := h } := by
  constructor
  · rintro ⟨⟩
    exact ⟨t.history, by cases t; simp_all⟩
  · rintro ⟨h, rfl⟩
    exact ⟨rfl, rfl, rfl, rfl, rfl, rfl, rfl, rfl⟩

theorem AlikeSteps.map {α β : Type} {p q : Session × α} (h : AlikeSteps p q) (g : α → β) :
    AlikeSteps (p.map id g) (q.map id g) := ⟨h.1, congrArg g h.2⟩

theorem isReversal_undo (s : Session) : isReversal (.ok s.undo.2) = true := by
  rw [undo]
  cases s.history.undo? <;> rfl

theorem isReversal_redo (s : Session) : isReversal (.ok s.redo.2) = true := by
  rw [redo]
  cases s.history.redo? <;> rfl

namespace Alike

section Steps

variable (hs : s.Alike t)

include hs

theorem withPending (text : Text) : Alike { s with pending := text } { t with pending := text } :=
  { hs with pending := rfl }

theorem endSegment : s.endSegment.Alike t.endSegment := { hs.withPending [] with ignoring := rfl }

theorem beginSegment : s.beginSegment.Alike t.beginSegment := { hs with ignoring := rfl }

theorem commit (d : Document) (v : Option Marker.Violation) :
    AlikeSteps (s.commit d v) (t.commit d v) :=
  ⟨{ hs with document := rfl }, by rw [Session.commit, hs.document]; rfl⟩

theorem handOver (outcome : Text → Outcome) :
    AlikeSteps (s.handOver outcome) (t.handOver outcome) :=
  ⟨{ hs with pending := rfl }, congrArg outcome hs.pending⟩

theorem perform {c : Command} (hc : isReversal (.ok (s.perform c).2) = false) :
    AlikeSteps (s.perform c) (t.perform c) := by
  cases c with
  | undo => exact absurd (isReversal_undo s) (Bool.eq_false_iff.1 hc)
  | redo => exact absurd (isReversal_redo s) (Bool.eq_false_iff.1 hc)
  | stop => exact ⟨{ hs with listening := rfl }, rfl⟩
  | discard => exact ⟨hs.endSegment, rfl⟩
  | process | execute => exact hs.handOver _

theorem apply {rule : Option Rule} {text : Text} (hr : isReversal (s.apply rule text).2 = false) :
    AlikeSteps (s.apply rule text) (t.apply rule text) := by
  rw [Session.apply] at hr
  rw [Session.apply, Session.apply, hs.document]
  cases he : s.document.effect rule text with
  | error f => exact ⟨hs, rfl⟩
  | ok e =>
    rw [he] at hr
    cases e with
    | edit d v => exact (hs.commit d v).map _
    | command c => exact (hs.perform hr).map _
    | unchanged => exact ⟨hs, rfl⟩

theorem process {text : Text} (hr : isReversal (s.process text).2 = false) :
    AlikeSteps (s.process text) (t.process text) := by
  rw [Session.process] at hr
  rw [Session.process, Session.process, hs.rules]
  split_ifs at hr ⊢
  · exact ⟨hs, rfl⟩
  · exact hs.apply hr

theorem hears : t.Hears ↔ s.Hears := by
  rw [Hears, Hears, hs.listening, hs.ignoring]

theorem transcript (text : Text) : t.transcript text = s.transcript text := by
  rw [Session.transcript, Session.transcript, hs.pending]

theorem hear {text : Text} {final : Bool} (hr : isReversal (s.hear text final).2 = false) :
    AlikeSteps (s.hear text final) (t.hear text final) := by
  have hsame : t.rules.route (t.transcript text) = s.rules.route (s.transcript text) := by
    rw [hs.rules, hs.transcript]
  by_cases hh : s.Hears
  · have ht : t.Hears := hs.hears.2 hh
    cases hroute : s.rules.route (s.transcript text) with
    | process before =>
      rw [hear_of_process hh hroute, hear_of_process ht (hsame.trans hroute)]
      exact ⟨hs.endSegment, rfl⟩
    | execute before =>
      rw [hear_of_execute hh hroute, hear_of_execute ht (hsame.trans hroute)]
      exact ⟨hs.endSegment, rfl⟩
    | discard =>
      rw [hear_of_discard hh hroute, hear_of_discard ht (hsame.trans hroute)]
      exact ⟨hs.endSegment, rfl⟩
    | rule r =>
      rw [hear_of_rule hh hroute] at hr ⊢
      rw [hear_of_rule ht (hsame.trans hroute), hs.transcript]
      exact hs.endSegment.apply hr
    | dictation =>
      cases final with
      | false =>
        rw [hear_interim_of_dictation hh hroute, hear_interim_of_dictation ht (hsame.trans hroute),
          hs.transcript]
        exact ⟨hs, rfl⟩
      | true =>
        cases ha : s.autoProcess with
        | true =>
          rw [hear_final_of_autoProcess hh hroute ha] at hr ⊢
          rw [hear_final_of_autoProcess ht (hsame.trans hroute) (hs.autoProcess.trans ha),
            hs.transcript]
          exact (hs.withPending []).process hr
        | false =>
          rw [hear_final_of_waits hh hroute ha, hear_final_of_waits ht (hsame.trans hroute)
            (hs.autoProcess.trans ha), hs.transcript]
          exact ⟨hs.withPending _, rfl⟩
  · rw [hear_of_not_hears hh, hear_of_not_hears (mt hs.hears.1 hh)]
    exact ⟨hs, rfl⟩

theorem takeTranscription {text : Text} {execute : Bool}
    (hr : isReversal (s.takeTranscription text execute).2 = false) :
    AlikeSteps (s.takeTranscription text execute) (t.takeTranscription text execute) := by
  rw [Session.takeTranscription] at hr
  rw [Session.takeTranscription, Session.takeTranscription, hs.rules]
  split_ifs at hr ⊢
  · exact ⟨hs, rfl⟩
  · exact hs.process hr

theorem execute (service : Request → Except Fault Text) (instruction : Text) :
    AlikeSteps (s.execute service instruction) (t.execute service instruction) := by
  rw [Session.execute, Session.execute, hs.prompt, hs.document]
  cases service ⟨s.prompt, Marker.tag s.document, instruction⟩ with
  | error f => exact ⟨hs, rfl⟩
  | ok reply => exact (hs.commit _ _).map _

theorem operate {o : Operation} (hr : ∀ r ∈ (s.operate o).2, isReversal r = false) :
    AlikeSteps (s.operate o) (t.operate o) := by
  cases o with
  | hear text final => exact (hs.hear (hr _ rfl)).map some
  | process text => exact (hs.process (hr _ rfl)).map some
  | takeTranscription text execute => exact (hs.takeTranscription (hr _ rfl)).map some
  | execute service instruction => exact (hs.execute service instruction).map some
  | undo => exact absurd (isReversal_undo s) (Bool.eq_false_iff.1 (hr _ rfl))
  | redo => exact absurd (isReversal_redo s) (Bool.eq_false_iff.1 (hr _ rfl))
  | stop => exact ⟨{ hs with listening := rfl }, rfl⟩
  | discard => exact ⟨hs.endSegment, rfl⟩
  | beginSegment => exact ⟨hs.beginSegment, rfl⟩
  | listen => exact ⟨{ hs with listening := rfl, ignoring := rfl }, rfl⟩
  | reload rules =>
    exact ⟨{ hs with rules := rfl, generation := congrArg (· + 1) hs.generation }, rfl⟩
  | replaceDocument d record => exact ⟨{ hs with document := rfl }, rfl⟩

end Steps

end Alike

def answers (s : Session) : List Operation → List (Option (Except Fault Outcome))
  | [] => []
  | o :: os => (s.operate o).2 :: (s.operate o).1.answers os

/-- Alike sessions stay alike, and give the same answers, in every run without undo and redo. -/
theorem Alike.run (hs : s.Alike t) {os : List Operation}
    (hr : ∀ a ∈ s.answers os, ∀ r ∈ a, isReversal r = false) :
    (s.run os).Alike (t.run os) ∧ t.answers os = s.answers os := by
  induction os generalizing s t with
  | nil => exact ⟨hs, rfl⟩
  | cons o os ih =>
    rw [answers] at hr
    obtain ⟨hstep, hanswer⟩ := hs.operate (hr _ List.mem_cons_self)
    obtain ⟨hrun, hanswers⟩ := ih hstep fun a ha => hr a (List.mem_cons_of_mem _ ha)
    exact ⟨hrun, by rw [answers, answers, hanswer, hanswers]⟩

end Dictation.Session
