import Dictation.Text.Trim

namespace Dictation

inductive Command where
  /-- Hands over the text before the trigger to be processed. -/
  | process
  | execute
  | undo
  | redo
  | stop
  | discard
  deriving DecidableEq, Repr

namespace Command

def all : List Command := [process, execute, undo, redo, stop, discard]

def name : Command → Text
  | process => "process".toList
  | execute => "execute".toList
  | undo => "undo".toList
  | redo => "redo".toList
  | stop => "stop".toList
  | discard => "discard".toList

def toText (c : Command) : Text := '#' :: c.name

def dropSign : Text → Text
  | '#' :: t => t
  | t => t

/-- The command of a name, which may have blanks around it, a number sign before it, and ASCII
letters of either case. -/
def ofName? (t : Text) : Option Command :=
  let name := (dropSign t.trim).map Char.toLower
  all.find? (·.name == name)

/-- Whether the command also fires at the end of a longer utterance. -/
def isTail : Command → Bool
  | process | execute | discard => true
  | undo | redo | stop => false

end Command

end Dictation
