import Dictation.Screen.Columns
import Dictation.Session

namespace Dictation

inductive Highlight where
  | yellow
  | green
  | cyan
  | magenta
  | off
  deriving DecidableEq, Repr

namespace Highlight

def code? : Highlight → Option Nat
  | yellow => some 11
  | green => some 10
  | cyan => some 14
  | magenta => some 13
  | off => none

end Highlight

structure Screen where
  highlight : Highlight
  showCaret : Bool
  /-- Whether the terminal shows no colours; then every colour is set to none. -/
  colourless : Bool
  deriving DecidableEq, Repr

namespace Screen

structure Run where
  text : Text
  reversed : Bool
  coloured : Bool
  deriving DecidableEq, Repr

inductive Part where
  | caret
  | run (r : Run)
  deriving DecidableEq, Repr

def insertCut (i : Nat) : List Nat → List Nat
  | [] => [i]
  | j :: js => if i < j then i :: j :: js else if i = j then j :: js else j :: insertCut i js

/-- The span that is coloured: the first one, unless it is empty or there is no colour. -/
def span? (screen : Screen) (spans : List Span) : Option Span :=
  spans.head?.filter fun s => !s.isEmpty && screen.highlight.code?.isSome

def cuts (d : Document) (span : Option Span) : List Nat :=
  let ends := match span with
    | some s => [min s.start d.buffer.size, min s.stop d.buffer.size]
    | none => []
  ([0, d.buffer.size, d.clamped.start, d.clamped.stop] ++ ends).foldr insertCut []

def caret? (screen : Screen) (d : Document) : Option Nat :=
  if screen.showCaret && d.clamped.isCaret then some d.clamped.start else none

def run (d : Document) (span : Option Span) (i j : Nat) : Run where
  text := d.buffer.slice i j
  reversed := !d.clamped.isCaret && d.clamped.start ≤ i && j ≤ d.clamped.stop
  coloured := span.any fun s => s.start ≤ i && j ≤ s.stop

/-- The runs between neighbouring cuts; the caret comes before the run that starts where it stands.
-/
def partsBetween (d : Document) (span : Option Span) (caret : Option Nat) : List Nat → List Part
  | i :: j :: rest =>
    (if caret = some i then [.caret] else []) ++ .run (run d span i j) ::
      partsBetween d span caret (j :: rest)
  | _ => []

/-- All parts of a document. No run starts at the end of the buffer, so a caret there follows them.
-/
def parts (screen : Screen) (d : Document) (spans : List Span) : List Part :=
  let span := screen.span? spans
  let caret := screen.caret? d
  partsBetween d span caret (cuts d span) ++ if caret = some d.buffer.size then [.caret] else []

def control (code : Text) : Text := '\x1b' :: '[' :: code ++ ['m']

def colour (screen : Screen) (code : String) : Text :=
  control (if screen.colourless then [] else code.toList)

def letters (screen : Screen) (number : Nat) : Text :=
  screen.colour ("38;5;" ++ Nat.repr number)

def colours (screen : Screen) (r : Run) : Text :=
  match screen.highlight.code? with
  | some n => if r.coloured then screen.colour ("48;5;" ++ Nat.repr n) ++ screen.letters 0 else []
  | none => []

def showRun (screen : Screen) (r : Run) : Text :=
  let colours := screen.colours r
  let normal := if colours.isEmpty then [] else screen.colour "49" ++ screen.colour "39"
  if r.reversed then colours ++ control ['7'] ++ r.text ++ control ['0']
  else colours ++ r.text ++ normal

def showPart (screen : Screen) : Part → Text
  | .caret => [Marker.caretSymbol]
  | .run r => screen.showRun r

def document (screen : Screen) (d : Document) (spans : List Span) : Text :=
  (screen.parts d spans).flatMap screen.showPart

def fitting (width : Nat) : Nat → Text → Text
  | _, [] => []
  | used, c :: t =>
    if used + Character.width c + 1 ≤ width then c :: fitting width (used + Character.width c) t
      else []

def truncate (t : Text) (width : Nat) : Text :=
  if columns t ≤ width then t
  else if width = 0 then []
  else fitting width 0 t ++ ['…']

def statusLine (s : Session) (o : Outcome) (width : Nat) : Text :=
  let position := s.history.index.elim 0 (· + 1)
  truncate (o.status ++ " | ".toList ++ s.document.selection.toText ++ " | history ".toList ++
    Text.ofNat position ++ ['/'] ++ Text.ofNat s.history.entries.length ++
    if s.listening then [] else " | not listening".toList) width

def defaultWidth : Nat := 80

def draw (screen : Screen) (s : Session) (o : Outcome) : Text :=
  screen.document s.document o.spans ++ ['\n'] ++ screen.letters 8 ++ statusLine s o defaultWidth ++
    screen.colour "39" ++ ['\n']

end Screen

end Dictation
