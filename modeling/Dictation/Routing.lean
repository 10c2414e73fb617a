import Dictation.Rule.File

namespace Dictation

structure TailMatch where
  rule : Rule
  before : Text
  deriving DecidableEq, Repr

inductive Route where
  | process (before : Text)
  | execute (before : Text)
  | discard
  | rule (rule : Rule)
  | dictation
  deriving DecidableEq, Repr

structure Stripped where
  text : Text
  execute : Bool
  deriving DecidableEq, Repr

structure Tails where
  process : Option TailMatch := none
  execute : Option TailMatch := none
  discard : Option TailMatch := none
  deriving DecidableEq, Repr

namespace Tails

def of? (tails : Tails) : Command → Option TailMatch
  | .process => tails.process
  | .execute => tails.execute
  | .discard => tails.discard
  | .undo | .redo | .stop => none

/-- Notes a rule whose trigger ends the utterance, unless there is one with its command already. -/
def add (utterance : Text) (tails : Tails) (r : Rule) : Tails :=
  match r.command? with
  | some .process => { tails with process := first tails.process }
  | some .execute => { tails with execute := first tails.execute }
  | some .discard => { tails with discard := first tails.discard }
  | _ => tails
where
  first : Option TailMatch → Option TailMatch
    | some m => some m
    | none => (r.beforeTail? utterance).map (⟨r, ·⟩)

end Tails

namespace RuleSet

/-- The triggers that end an utterance, from one pass over the rules. -/
def tails (set : RuleSet) (utterance : Text) : Tails := set.rules.foldl (Tails.add utterance) {}

def tail? (set : RuleSet) (c : Command) (utterance : Text) : Option TailMatch :=
  (set.tails utterance).of? c

def whole? (set : RuleSet) (utterance : Text) : Option Rule :=
  set.rules.find? (·.matchesWhole utterance)

def route (set : RuleSet) (utterance : Text) : Route :=
  let tails := set.tails utterance
  match tails.process with
  | some m => .process m.before
  | none =>
    match tails.execute with
    | some m => .execute m.before
    | none =>
      if tails.discard.isSome then .discard
      else match set.whole? utterance with
        | some r => .rule r
        | none => .dictation

/-- Cuts the trigger of one rule off the end, if it is a process or execute rule. -/
def stripRule (s : Stripped) (r : Rule) : Stripped :=
  match r.command? with
  | some .process => cut false
  | some .execute => cut true
  | _ => s
where
  cut (execute : Bool) : Stripped :=
    match r.beforeSpokenTail? s.text with
    | some before => ⟨before.trim, s.execute || execute⟩
    | none => s

/-- Cuts the triggers of the process and execute rules off the end of a text, one rule after the
other. -/
def stripTail (set : RuleSet) (t : Text) : Stripped := set.rules.foldl stripRule ⟨t, false⟩

end RuleSet

end Dictation
