import Dictation.Document
import Dictation.Text.Replace

namespace Dictation.Marker

def startBase : Char := '🅰'

def stopBase : Char := '🅱'

/-- Asks for the colourful form of the character before it. -/
def selector : Char := '\ufe0f'

def caretSymbol : Char := '◉'

def startMark : Text := [startBase, selector]

def stopMark : Text := [stopBase, selector]

inductive Token where
  | start
  | stop
  | caret
  | plain (c : Char)
  deriving DecidableEq, Repr

namespace Token

def ofChar (c : Char) : Token :=
  if c = startBase then .start
  else if c = stopBase then .stop
  else if c = caretSymbol then .caret
  else .plain c

def plain? : Token → Option Char
  | .plain c => some c
  | _ => none

end Token

/-- A text as tokens; a selector directly after a marker belongs to the marker. -/
def tokens : Text → List Token
  | [] => []
  | [c] => [.ofChar c]
  | c :: d :: t =>
    if (c = startBase ∨ c = stopBase) ∧ d = selector then .ofChar c :: tokens t
    else .ofChar c :: tokens (d :: t)

def plainText (ts : List Token) : Text := ts.filterMap Token.plain?

def strip (t : Text) : Text := plainText (tokens t)

/-- Every marker written with exactly one selector of its own: of each kind, first those that have a
selector lose it, then all are given one. -/
def canonical (t : Text) : Text :=
  let t := Text.replaceEach startMark [startBase] t
  let t := Text.replaceEach [startBase] startMark t
  let t := Text.replaceEach stopMark [stopBase] t
  Text.replaceEach [stopBase] stopMark t

def offset? (kind : Token) (ts : List Token) : Option Nat :=
  if kind ∈ ts then some (plainText (ts.takeWhile (· ≠ kind))).size else none

inductive Violation where
  | absent
  | reversed
  | miscounted (starts stops : Nat)
  deriving DecidableEq, Repr

namespace Violation

def message : Violation → Text
  | absent => "no markers in result".toList
  | reversed => "end marker precedes start marker".toList
  | miscounted starts stops =>
    Text.ofNat starts ++ " start / ".toList ++ Text.ofNat stops ++ " end markers in result".toList

end Violation

/-- One start marker followed by one end marker is as it should be; markers that meet in one place
are not told apart. -/
def tokenViolation? (ts : List Token) : Option Violation :=
  match ts.count .start, ts.count .stop with
  | 0, 0 => some .absent
  | 1, 1 =>
    match offset? .start ts, offset? .stop ts with
    | some i, some j => if j < i then some .reversed else none
    | _, _ => none
  | starts, stops => some (.miscounted starts stops)

def violation? (t : Text) : Option Violation := tokenViolation? (tokens t)

/-- The selection that the first marker of each kind gives, in whichever order; one marker is a
caret. -/
def tokenSelection? (ts : List Token) : Option Selection :=
  match offset? .start ts, offset? .stop ts with
  | some i, some j => some (.between i j)
  | some i, none => some (.caret i)
  | none, some j => some (.caret j)
  | none, none => none

def tag (d : Document) : Text := d.before ++ startMark ++ d.selected ++ stopMark ++ d.after

def untag? (t : Text) : Option Document := (tokenSelection? (tokens t)).map (.ofParts (strip t))

structure Recovered where
  document : Document
  violation : Option Violation
  deriving DecidableEq, Repr

/-- Reads an edited text; without markers the caret goes to the start of the given line. -/
def recover (t : Text) (line : Nat) : Recovered where
  document := (untag? t).getD (.ofParts (strip t) (.caret ((strip t).lineStart line)))
  violation := violation? t

/-- A document as it is stored: the buffer without markers, and the caret symbol at the selection's
start. -/
def park (d : Document) : Text :=
  let clean := strip d.buffer
  let i := (d.selection.clampTo clean).start
  clean.upTo i ++ caretSymbol :: clean.beyond i

/-- Reads a stored document; the caret goes to the end when no symbol holds its place. -/
def unpark (t : Text) : Document :=
  if caretSymbol ∈ t then .ofParts (strip t) (.caret (strip (t.takeWhile (· ≠ caretSymbol))).size)
  else .atEnd (strip t)

end Marker

/-- The buffer of a document without markers, which is what the history keeps. -/
def Document.snapshot (d : Document) : Text := Marker.strip d.buffer

end Dictation
