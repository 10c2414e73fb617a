import Dictation.Rule.Basic
import Dictation.Character.Casing

namespace Dictation

namespace Document

/-- The text in place of the selection, and the caret behind it. -/
def insert (d : Document) (t : Text) : Document :=
  .ofParts (d.before ++ t ++ d.after) (.caret (d.before.size + t.size))

end Document

namespace Dictated

def dropSpaces (t : Text) : Text := (t.reverse.dropWhile fun c => c == ' ' || c == '\t').reverse

def lastLine (t : Text) : Text := (t.reverse.takeWhile (· != '\n')).reverse

/-- Whether a sentence starts after a text, whatever spaces and tabs end it: a sentence or a line
has just ended, or the last line has no letters. -/
def startsSentence (before : Text) : Bool :=
  let text := dropSpaces before
  let ended := match text.getLast? with
    | none => true
    | some c => c == '.' || c == '!' || c == '?' || c == '\n'
  ended || !(lastLine text).any Character.isAlphabetic

def needsSpace (before : Text) : Bool := before.getLast?.any fun c => c != '\n' && c != ' '

def setFirstLetter (capital : Bool) : Text → Text
  | [] => []
  | c :: t =>
    if Character.isAlphabetic c then (if capital then Character.upper c else Character.lower c) ++ t
    else c :: setFirstLetter capital t

end Dictated

namespace Document

/-- A dictated text as it is put in: with a capital where a sentence starts, and with a space before
it where one is needed. Blanks alone are nothing. -/
def dictation? (d : Document) (utterance : Text) : Option Text :=
  if utterance.trim.isEmpty then none
  else some <|
    (if Dictated.needsSpace d.before then [' '] else []) ++
      Dictated.setFirstLetter (Dictated.startsSentence d.before) utterance.trim

/-- Runs an operation on the tagged document and reads it back; without markers the caret goes to
the start of its line. -/
def replaceMatches (d : Document) (o : Operation) : Marker.Recovered :=
  Marker.recover (o.run (Marker.tag d)) d.cursorLine

end Document

inductive Effect where
  | edit (document : Document) (violation : Option Marker.Violation)
  | command (command : Command)
  | unchanged
  deriving DecidableEq, Repr

namespace Rule

def replaceMatches (r : Rule) (d : Document) : Except Fault Marker.Recovered :=
  r.operation.map d.replaceMatches

def effect (r : Rule) (d : Document) : Except Fault Effect :=
  match r.action with
  | .command c => .ok (.command c)
  | .substitution t => .ok (.edit (d.insert t) none)
  | .replacement _ _ => (r.replaceMatches d).map fun result =>
    .edit result.document result.violation

end Rule

namespace Document

/-- The effect of a rule, or of an utterance as dictation when there is none. -/
def effect (d : Document) (rule : Option Rule) (utterance : Text) : Except Fault Effect :=
  match rule with
  | some r => r.effect d
  | none => .ok <|
    match d.dictation? utterance with
    | some t => .edit (d.insert t) none
    | none => .unchanged

end Document

end Dictation
