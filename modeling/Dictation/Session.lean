import Dictation.Routing
import Dictation.Edit
import Dictation.Change
import Dictation.History
import Dictation.BuiltIn

namespace Dictation

inductive Outcome where
  /-- The document was edited; the spans lie in the new document. -/
  | edited (spans : List Span) (violation : Option Marker.Violation)
  | undone (spans : List Span)
  | redone (spans : List Span)
  | nothingToUndo
  | nothingToRedo
  | stopped
  | discarded
  | process (text : Text)
  | execute (text : Text)
  | pending (text : Text)
  | ignored
  | unchanged
  deriving DecidableEq, Repr

namespace Outcome

def spans : Outcome → List Span
  | edited spans _ | undone spans | redone spans => spans
  | _ => []

def status : Outcome → Text
  | edited _ (some violation) => (Fault.markers violation).message
  | edited _ none => "Ready".toList
  | undone _ => "Undo".toList
  | redone _ => "Redo".toList
  | nothingToUndo => "Nothing to undo".toList
  | nothingToRedo => "Nothing to redo".toList
  | stopped => "Stopped".toList
  | discarded => "Discarded".toList
  | process _ => "Processing...".toList
  | execute text => "Executing: \"".toList ++ text ++ ['"']
  | pending text => "Pending: ".toList ++ text
  | ignored => "Ignored".toList
  | unchanged => "Ready".toList

end Outcome

structure Session where
  rules : RuleSet
  generation : Nat
  document : Document
  history : History
  listening : Bool
  /-- Whether the rest of the segment is ignored. -/
  ignoring : Bool
  pending : Text
  autoProcess : Bool
  prompt : Text
  deriving DecidableEq, Repr

abbrev Step := Session × Except Fault Outcome

namespace Session

/-- A session on a document, whose buffer is the first snapshot. -/
def start (rules : RuleSet) (d : Document) : Session where
  rules
  generation := 0
  document := d
  history := (History.empty History.defaultCapacity).push d.snapshot
  listening := true
  ignoring := false
  pending := []
  autoProcess := true
  prompt := BuiltIn.prompt

/-- A new history with the present document; no session when there can be no such history. -/
def withCapacity? (s : Session) (capacity : Nat) : Option Session :=
  (History.ofCapacity? capacity).map fun h => { s with history := h.push s.document.snapshot }

def withAutoProcess (s : Session) (autoProcess : Bool) : Session := { s with autoProcess }

def withPrompt (s : Session) (prompt : Text) : Session := { s with prompt }

/-- Takes a snapshot, puts a new document in place, and takes a snapshot of that. -/
def commit (s : Session) (d : Document) (violation : Option Marker.Violation) : Session × Outcome :=
  ({ s with document := d, history := (s.history.push s.document.snapshot).push d.snapshot },
    .edited (changes s.document.buffer d.buffer) violation)

/-- Moves to another place in the history; the caret goes to the end of its snapshot. -/
def restore (s : Session) (history : History) (outcome : List Span → Outcome) : Session × Outcome :=
  let d := Document.atEnd (history.current?.getD [])
  ({ s with history, document := d }, outcome (changes s.document.buffer d.buffer))

def undo (s : Session) : Session × Outcome :=
  match s.history.undo? with
  | some h => s.restore h .undone
  | none => (s, .nothingToUndo)

def redo (s : Session) : Session × Outcome :=
  match s.history.redo? with
  | some h => s.restore h .redone
  | none => (s, .nothingToRedo)

def stop (s : Session) : Session × Outcome := ({ s with listening := false }, .stopped)

def endSegment (s : Session) : Session := { s with pending := [], ignoring := true }

def discard (s : Session) : Session × Outcome := (s.endSegment, .discarded)

def beginSegment (s : Session) : Session := { s with ignoring := false }

def listen (s : Session) : Session := { s with listening := true, ignoring := false }

/-- Hands the pending text over, with a snapshot of the document as it is. -/
def handOver (s : Session) (outcome : Text → Outcome) : Session × Outcome :=
  ({ s with history := s.history.push s.document.snapshot, pending := [] }, outcome s.pending)

def perform (s : Session) : Command → Session × Outcome
  | .undo => s.undo
  | .redo => s.redo
  | .stop => s.stop
  | .discard => s.discard
  | .process => s.handOver .process
  | .execute => s.handOver .execute

def apply (s : Session) (rule : Option Rule) (text : Text) : Step :=
  match s.document.effect rule text with
  | .error f => (s, .error f)
  | .ok (.edit d violation) => (s.commit d violation).map id .ok
  | .ok (.command c) => (s.perform c).map id .ok
  | .ok .unchanged => (s, .ok .unchanged)

def process (s : Session) (text : Text) : Step :=
  if text.trim.isEmpty then (s, .ok .unchanged)
  else s.apply (s.rules.whole? text.trim) text.trim

def transcript (s : Session) (text : Text) : Text :=
  if s.pending.isEmpty then text.trim
  else if text.trim.isEmpty then s.pending
  else s.pending ++ ' ' :: text.trim

/-- Hears an utterance, in part or in full. Rules fire on parts too, and end the segment; what
belongs to no rule is put in once it is heard in full, or waits. -/
def hear (s : Session) (text : Text) (final : Bool) : Step :=
  if !s.listening || s.ignoring then (s, .ok .ignored)
  else
    let heard := s.transcript text
    match s.rules.route heard with
    | .process before => (s.endSegment, .ok (.process before.trim))
    | .execute before => (s.endSegment, .ok (.execute before.trim))
    | .discard => s.discard.map id .ok
    | .rule r => s.endSegment.apply (some r) heard.trim
    | .dictation =>
      if !final then (s, .ok (.pending heard))
      else if s.autoProcess then { s with pending := [] }.process heard
      else ({ s with pending := heard }, .ok (.pending heard))

/-- Takes a text from the speech service; a trigger at its end, or `execute`, makes it an
instruction. -/
def takeTranscription (s : Session) (text : Text) (execute : Bool) : Step :=
  let stripped := s.rules.stripTail text
  if execute || stripped.execute then (s, .ok (.execute stripped.text)) else s.process stripped.text

structure Request where
  prompt : Text
  tagged : Text
  instruction : Text
  deriving DecidableEq, Repr

def execute (s : Session) (service : Request → Except Fault Text) (instruction : Text) : Step :=
  match service ⟨s.prompt, Marker.tag s.document, instruction⟩ with
  | .error f => (s, .error f)
  | .ok reply =>
    let result := Marker.recover reply.trim s.document.cursorLine
    (s.commit result.document result.violation).map id .ok

/-- Takes over a document that was edited elsewhere; with `record` its buffer becomes a snapshot. -/
def replaceDocument (s : Session) (d : Document) (record : Bool) : Session :=
  let d := Document.ofParts d.buffer d.selection
  { s with document := d, history := if record then s.history.push d.snapshot else s.history }

def reload (s : Session) (rules : Text) : Session :=
  { s with rules := .read rules, generation := s.generation + 1 }

end Session

end Dictation
