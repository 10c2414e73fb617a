import Dictation.Proofs.Routing
import Dictation.Proofs.Rule.File
import Dictation.Proofs.Session.Hearing
import Dictation.Proofs.Session.Run

namespace Dictation

namespace Rule

variable {r : Rule} {d : Document} {f : Fault}

theorem effect_eq_error_iff : r.effect d = .error f ↔ r.Broken ∧ f = .operation r.trigger := by
  rw [effect]
  cases hr : r.action with
  | command c => simp [Broken, hr]
  | substitution t => simp [Broken, hr]
  | replacement pattern template =>
    rw [broken_iff hr, ← operation_of_replacement hr]
    cases ho : r.operation with
    | error g => simp [replaceMatches, ho, Except.map]
    | ok o => simp [replaceMatches, ho, Except.map]

end Rule

theorem Document.effect_eq_error_iff {d : Document} {rule : Option Rule} {t : Text} {f : Fault} :
    d.effect rule t = .error f ↔ ∃ r, rule = some r ∧ r.Broken ∧ f = .operation r.trigger := by
  cases rule with
  | none => simp [effect]
  | some r => simp [effect, Rule.effect_eq_error_iff]

namespace Session

variable {s t : Session} {text : Text} {f : Fault}

theorem apply_eq_error_iff {rule : Option Rule} :
    s.apply rule text = (t, .error f) ↔
      t = s ∧ ∃ r, rule = some r ∧ r.Broken ∧ f = .operation r.trigger := by
  rw [← Document.effect_eq_error_iff (d := s.document) (t := text), apply]
  cases s.document.effect rule text with
  | error g => simp [eq_comm]
  | ok e =>
    cases e with
    | edit d v => simp [Prod.map]
    | command c => simp [Prod.map]
    | unchanged => simp

theorem process_eq_error_iff :
    s.process text = (t, .error f) ↔
      t = s ∧ ∃ r, s.rules.selected? text = some r ∧ r.Broken ∧ f = .operation r.trigger := by
  rw [process, RuleSet.selected?]
  split
  · simp
  · exact apply_eq_error_iff

theorem takeTranscription_eq_error_iff {execute : Bool} :
    s.takeTranscription text execute = (t, .error f) ↔
      (execute || (s.rules.stripTail text).execute) = false ∧ t = s ∧
        ∃ r, s.rules.selected? (s.rules.stripTail text).text = some r ∧ r.Broken ∧
          f = .operation r.trigger := by
  rw [takeTranscription]
  cases execute || (s.rules.stripTail text).execute with
  | true => simp
  | false => simp [process_eq_error_iff]

theorem execute_eq_error_iff {service : Request → Except Fault Text} :
    s.execute service text = (t, .error f) ↔
      t = s ∧ service ⟨s.prompt, Marker.tag s.document, text⟩ = .error f := by
  rw [execute]
  cases service ⟨s.prompt, Marker.tag s.document, text⟩ with
  | error g => simp [eq_comm]
  | ok reply => simp [Prod.map]

theorem hear_eq_error_iff {final : Bool} :
    s.hear text final = (t, .error f) ↔ s.Hears ∧ t = s.endSegment ∧
      ∃ r, s.rules.route (s.transcript text) = .rule r ∧ r.Broken ∧ f = .operation r.trigger := by
  by_cases hs : s.Hears
  · cases hr : s.rules.route (s.transcript text) with
    | process before => simp [hear_of_process hs hr]
    | execute before => simp [hear_of_execute hs hr]
    | discard => simp [hear_of_discard hs hr]
    | rule r => simp [hear_of_rule hs hr, hs, apply_eq_error_iff]
    | dictation =>
      cases final with
      | false => simp [hear_interim_of_dictation hs hr]
      | true =>
        cases ha : s.autoProcess with
        | false => simp [hear_final_of_waits hs hr ha]
        | true =>
          -- A transcript on the way to dictation belongs to no rule, so the
          -- second look at the rules finds none.
          have hnone := RuleSet.selected?_of_route_dictation hr
          simp [hear_final_of_autoProcess hs hr ha, process_eq_error_iff, hnone]
  · simp [hear_of_not_hears hs, hs]

def selected? (s : Session) : Operation → Option Rule
  | .hear text _ =>
    if s.listening && !s.ignoring then (s.rules.route (s.transcript text)).rule? else none
  | .process text => s.rules.selected? text
  | .takeTranscription text execute =>
    let stripped := s.rules.stripTail text
    if execute || stripped.execute then none else s.rules.selected? stripped.text
  | _ => none

/-- What makes an operation fail, and with which fault. -/
def Fails (s : Session) : Operation → Fault → Prop
  | .execute service instruction, f =>
    service ⟨s.prompt, Marker.tag s.document, instruction⟩ = .error f
  | o, f => ∃ r, s.selected? o = some r ∧ r.Broken ∧ f = .operation r.trigger

/-- The session that an operation leaves behind when it fails. -/
def afterFault (s : Session) : Operation → Session
  | .hear _ _ => s.endSegment
  | _ => s

theorem selected?_hear_eq_some_iff {final : Bool} {r : Rule} :
    s.selected? (.hear text final) = some r ↔
      s.Hears ∧ s.rules.route (s.transcript text) = .rule r := by
  by_cases hs : s.Hears
  · simp [selected?, hs, hs.1, hs.2]
  · have hclosed : ¬(s.listening && !s.ignoring) = true := by simpa [Hears] using hs
    simp [selected?, hs, hclosed]

theorem operate_eq_error_iff {o : Operation} :
    s.operate o = (t, some (.error f)) ↔ t = s.afterFault o ∧ s.Fails o f := by
  have hsome (p : Step) : p.map id some = (t, some (.error f)) ↔ p = (t, .error f) := by
    simp [Prod.ext_iff]
  have hok (p : Session × Outcome) :
      p.map id (some ∘ Except.ok) ≠ (t, some (Except.error f)) := by
    simp [Prod.ext_iff]
  cases o with
  | hear text final =>
    rw [operate, hsome, hear_eq_error_iff]
    simp only [afterFault, Fails, selected?_hear_eq_some_iff, and_assoc, exists_and_left]
    exact and_left_comm
  | process text =>
    rw [operate, hsome, process_eq_error_iff]
    rfl
  | takeTranscription text execute =>
    rw [operate, hsome, takeTranscription_eq_error_iff]
    simp only [afterFault, Fails, selected?]
    cases execute || (s.rules.stripTail text).execute <;> simp
  | execute service instruction =>
    rw [operate, hsome, execute_eq_error_iff]
    rfl
  | undo | redo | stop | discard => simp [operate, hok, Fails, selected?]
  | beginSegment | listen | reload rules | replaceDocument d record =>
    simp [operate, Fails, selected?]

/-- An operation fails just where it must, and a failed operation leaves the document, its history
and the rules alone; all but an utterance leave the rest of the session alone, too. -/
theorem fails_iff (s : Session) (o : Operation) (f : Fault) :
    ((s.operate o).2 = some (.error f) ↔ s.Fails o f) ∧
    ((s.operate o).2 = some (.error f) →
      (s.operate o).1.document = s.document ∧ (s.operate o).1.history = s.history ∧
      (s.operate o).1.rules = s.rules ∧ (s.operate o).1.generation = s.generation ∧
      (s.operate o).1.listening = s.listening ∧
      ((∀ text final, o ≠ .hear text final) → (s.operate o).1 = s)) := by
  have hiff : (s.operate o).2 = some (.error f) ↔
      s.operate o = (s.afterFault o, some (.error f)) ∧ s.Fails o f := by
    constructor
    · intro he
      have hpair : s.operate o = ((s.operate o).1, some (.error f)) := Prod.ext rfl he
      have hstate := operate_eq_error_iff.1 hpair
      exact ⟨hstate.1 ▸ hpair, hstate.2⟩
    · rintro ⟨hpair, -⟩
      rw [hpair]
  constructor
  · rw [hiff, and_iff_right_of_imp]
    intro hf
    exact operate_eq_error_iff.2 ⟨rfl, hf⟩
  · intro he
    rw [(hiff.1 he).1]
    cases o with
    | hear text final => exact ⟨rfl, rfl, rfl, rfl, rfl, fun ho => absurd rfl (ho text final)⟩
    | _ => exact ⟨rfl, rfl, rfl, rfl, rfl, fun _ => rfl⟩

theorem fails_iff_of_parenthesis :
    let r : Rule := ⟨['(', '?', '-', 'i', ')', 'x'], .replacement ['('] [], 3⟩
    let s := (start ⟨[r], []⟩ (.atEnd ['k'])).run [.process ['-']]
    let o : Operation := .takeTranscription [' ', 'x'] false
    let o' : Operation := .execute (fun _ => .error (.completion [])) []
    s.Fails o (.operation r.trigger) ∧ (s.operate o).2 = some (.error (.operation r.trigger)) ∧
      (∀ text final, o ≠ .hear text final) ∧ (s.operate o).1 = s ∧
      s.Fails o' (.completion []) ∧ (s.operate o').2 = some (.error (.completion [])) := by
  intro r s o o'
  have hbroken : r.Broken := ⟨['('], [], rfl, rfl⟩
  have hselected : s.selected? o = some r := by decide
  have hf : s.Fails o (.operation r.trigger) := ⟨r, hselected, hbroken, rfl⟩
  have he := (fails_iff s o _).1.2 hf
  have hnot : ∀ text final, o ≠ .hear text final := by simp [o]
  have hf' : s.Fails o' (.completion []) := rfl
  exact ⟨hf, he, hnot, ((fails_iff s o _).2 he).2.2.2.2.2 hnot, hf', (fails_iff s o' _).1.2 hf'⟩

/-- An utterance that fails has closed its segment and lost the pending text before the rule was
tried. -/
theorem hear_of_error {final : Bool} (he : (s.hear text final).2 = .error f) :
    s.Hears ∧ (s.hear text final).1 = { s with pending := [], ignoring := true } := by
  have hpair : s.hear text final = ((s.hear text final).1, .error f) := Prod.ext rfl he
  have hclosed := hear_eq_error_iff.1 hpair
  exact ⟨hclosed.1, hclosed.2.1⟩

def waiting : Session :=
  ((start ⟨[⟨"(?-i)(.* )?x".toList, .replacement ['('] [], 1⟩], []⟩ (.atEnd ['k'])).withAutoProcess
    false).run [.hear ['-'] true]

theorem hear_of_error_waiting :
    (waiting.hear ['x'] true).2 = .error (.operation "(?-i)(.* )?x".toList) ∧ waiting.Hears ∧
      (waiting.hear ['x'] true).1 = { waiting with pending := [], ignoring := true } := by
  have he : (waiting.hear ['x'] true).2 = .error (.operation "(?-i)(.* )?x".toList) := by decide
  exact ⟨he, hear_of_error he⟩

theorem not_atomic_waiting :
    waiting.Reachable ∧ (waiting.hear ['x'] true).2 = .error (.operation "(?-i)(.* )?x".toList) ∧
      waiting.pending = ['-'] ∧ (waiting.hear ['x'] true).1.pending = [] ∧
      waiting.ignoring = false ∧ (waiting.hear ['x'] true).1.ignoring = true := by
  refine ⟨⟨_, [.hear ['-'] true], .withAutoProcess (.start _ _) false, rfl⟩, ?_⟩
  decide

end Session

end Dictation
