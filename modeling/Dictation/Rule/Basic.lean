import Dictation.Command
import Dictation.Fault
import Dictation.Pattern.Reader
import Dictation.Template

namespace Dictation

inductive Action where
  | command (command : Command)
  | substitution (text : Text)
  | replacement (pattern template : Text)
  deriving DecidableEq, Repr

namespace Action

def kind : Action → Text
  | command _ => "command".toList
  | substitution _ => "substitution".toList
  | replacement _ _ => "regex".toList

end Action

structure Trigger where
  whole : Pattern
  tail : Pattern
  spokenTail : Pattern

namespace Trigger

def wholeText (trigger : Text) : Text := "^(".toList ++ trigger ++ ")$".toList

def tailText (trigger : Text) : Text := "(?:^|\\s)(".toList ++ trigger ++ ")\\s*$".toList

def spokenTailText (trigger : Text) : Text :=
  "(?:^|\\s)(".toList ++ trigger ++ ")[\\s.,!?]*$".toList

def pattern? (t : Text) : Option Pattern := (Pattern.read? { ignoreCase := true } t).map (·.pattern)

def read? (trigger : Text) : Option Trigger := do
  let whole ← pattern? (wholeText trigger)
  let tail ← pattern? (tailText trigger)
  let spokenTail ← pattern? (spokenTailText trigger)
  return { whole, tail, spokenTail }

end Trigger

structure Operation where
  expression : Pattern.Expression
  replacement : Text

namespace Operation

def groups (o : Operation) : Nat := o.expression.pattern.groups

/-- Markers may be written with or without their selector. -/
def read? (pattern template : Text) : Option Operation :=
  (Pattern.read? { multiLine := true } (Marker.canonical pattern)).map fun e =>
    ⟨e, Template.toReplacement (Marker.canonical template) e.pattern.groups⟩

def run (o : Operation) (t : Text) : Text :=
  let pieces := Replacement.read o.replacement
  o.expression.pattern.replaceAll t fun m => pieces.flatMap (·.expand o.expression.names t m)

end Operation

structure Rule where
  trigger : Text
  action : Action
  line : Nat
  deriving DecidableEq, Repr

namespace Rule

def trigger? (r : Rule) : Option Trigger := Trigger.read? r.trigger

def isMatchable (r : Rule) : Bool := r.trigger?.isSome

def matchesWhole (r : Rule) (utterance : Text) : Bool :=
  r.trigger?.any (·.whole.matchesIn utterance.trim)

/-- The text before the first place where the trigger, and a blank before it, ends the utterance. -/
def beforeTail? (r : Rule) (utterance : Text) : Option Text :=
  r.trigger?.bind fun t => (t.tail.findStart? utterance).map utterance.take

/-- As `beforeTail?`, with punctuation after the trigger. -/
def beforeSpokenTail? (r : Rule) (utterance : Text) : Option Text :=
  r.trigger?.bind fun t => (t.spokenTail.findStart? utterance).map utterance.take

def tailMatch? (r : Rule) (utterance : Text) : Option Nat := (r.beforeTail? utterance).map Text.size

def spokenTailMatch? (r : Rule) (utterance : Text) : Option Nat :=
  (r.beforeSpokenTail? utterance).map Text.size

def command? (r : Rule) : Option Command :=
  match r.action with
  | .command c => some c
  | _ => none

def operation (r : Rule) : Except Fault Operation :=
  match r.action with
  | .replacement pattern template =>
    match Operation.read? pattern template with
    | some o => .ok o
    | none => .error (.operation r.trigger)
  | action => .error (.noOperation r.trigger action.kind)

end Rule

end Dictation
