import Dictation.Text.Lines
import Dictation.Text.Decimal

namespace Dictation

structure Selection where
  start : Nat
  stop : Nat
  deriving DecidableEq, Repr

namespace Selection

def between (i j : Nat) : Selection := if i ≤ j then ⟨i, j⟩ else ⟨j, i⟩

def caret (i : Nat) : Selection := ⟨i, i⟩

def isCaret (s : Selection) : Bool := s.start == s.stop

/-- Both ends moved down to boundaries of the text, and into order. -/
def clampTo (s : Selection) (t : Text) : Selection := between (t.floor s.start) (t.floor s.stop)

/-- A caret is written `@3`, any other selection `3..5`. -/
def toText (s : Selection) : Text :=
  if s.isCaret then '@' :: Text.ofNat s.start
    else Text.ofNat s.start ++ ['.', '.'] ++ Text.ofNat s.stop

def Valid (s : Selection) (t : Text) : Prop :=
  s.start ≤ s.stop ∧ t.IsBoundary s.start ∧ t.IsBoundary s.stop

end Selection

structure Document where
  buffer : Text
  selection : Selection
  deriving DecidableEq, Repr

namespace Document

def ofParts (buffer : Text) (selection : Selection) : Document := ⟨buffer, selection.clampTo buffer⟩

def atEnd (buffer : Text) : Document := ⟨buffer, .caret buffer.size⟩

def empty : Document := atEnd []

def clamped (d : Document) : Selection := d.selection.clampTo d.buffer

def before (d : Document) : Text := d.buffer.upTo d.clamped.start

def selected (d : Document) : Text := d.buffer.slice d.clamped.start d.clamped.stop

def after (d : Document) : Text := d.buffer.beyond d.clamped.stop

def cursorLine (d : Document) : Nat := d.before.count '\n'

end Document

end Dictation
