import Dictation.Pattern.Basic
import Dictation.Character.Blank
import Dictation.Character.Folding

namespace Dictation.Pattern

open Character

structure Flags where
  ignoreCase : Bool := false
  multiLine : Bool := false
  dotAll : Bool := false
  swapGreed : Bool := false
  unicode : Bool := true
  returns : Bool := false
  verbose : Bool := false
  deriving DecidableEq, Repr

namespace Flags

def switch? (f : Flags) (letter : Char) (on : Bool) : Option Flags :=
  match letter with
  | 'i' => some { f with ignoreCase := on }
  | 'm' => some { f with multiLine := on }
  | 's' => some { f with dotAll := on }
  | 'U' => some { f with swapGreed := on }
  | 'u' => some { f with unicode := on }
  | 'R' => some { f with returns := on }
  | 'x' => some { f with verbose := on }
  | _ => none

def sameAs (f : Flags) (c : Char) : List Char :=
  if f.ignoreCase then if f.unicode then caseClass c else asciiCaseClass c else [c]

def widen (f : Flags) (s : CharSet) : CharSet :=
  if f.ignoreCase then fun c => (f.sameAs c).any s else s

def literal (f : Flags) (c : Char) : CharSet :=
  match f.sameAs c with
  | [d] => (· == d)
  | cs => cs.contains

/-- The set of `.`; without Unicode it could split a character and is refused. -/
def dot? (f : Flags) : Option CharSet :=
  if !f.unicode then none
  else if f.dotAll then some fun _ => true
  else if f.returns then some fun c => c != '\n' && c != '\r'
  else some (· != '\n')

def caretPlace (f : Flags) : Place :=
  if !f.multiLine then .textStart else if f.returns then .returnLineStart else .lineStart

def dollarPlace (f : Flags) : Place :=
  if !f.multiLine then .textEnd else if f.returns then .returnLineEnd else .lineEnd

/-- A complement; without Unicode it would hold single bytes and is refused. -/
def complement? (f : Flags) (s : CharSet) : Option CharSet :=
  if f.unicode then some fun c => !s c else none

def escapeSet? (f : Flags) (letter : Char) : Option CharSet :=
  let blank : CharSet := if f.unicode then isBlank else fun c => c == ' ' || ('\t' ≤ c && c ≤ '\r')
  let digit : CharSet := if f.unicode then Character.isDigit else Char.isDigit
  let word : CharSet := if f.unicode then isWord else fun c => c.isAlphanum || c == '_'
  match letter with
  | 'd' => some digit
  | 's' => some blank
  | 'w' => some word
  | 'D' => f.complement? digit
  | 'S' => f.complement? blank
  | 'W' => f.complement? word
  | _ => none

def skipComments : Bool → Text → Text
  | _, [] => []
  | true, c :: t => skipComments (c != '\n') t
  | false, c :: t =>
    if isBlank c then skipComments false t
    else if c = '#' then skipComments true t
    else c :: t

def skip (f : Flags) (t : Text) : Text := if f.verbose then skipComments false t else t

end Flags

end Dictation.Pattern
