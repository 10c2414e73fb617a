import Dictation.Text.Basic

namespace Dictation.Text

def pieces (separator : Char) : Text → List Text
  | [] => [[]]
  | c :: t =>
    if c = separator then [] :: pieces separator t
    else match pieces separator t with
      | [] => [[c]]
      | p :: ps => (c :: p) :: ps

def dropReturn (t : Text) : Text := if t.getLast? = some '\r' then t.dropLast else t

def lines (t : Text) : List Text :=
  let ps := pieces '\n' t
  let last := ps.getLast?.getD []
  ps.dropLast.map dropReturn ++ if last.isEmpty then [] else [last]

/-- The offset at which line `k` starts, lines counted from zero; the last line when there are
fewer. -/
def lineStart (t : Text) (k : Nat) : Nat :=
  ((pieces '\n' t).take (min k (t.count '\n'))).foldr (fun line i => size line + 1 + i) 0

/-- Writes a newline for every backslash followed by the letter n. -/
def decodeNewlines : Text → Text
  | [] => []
  | [c] => [c]
  | c :: d :: t =>
    if c = '\\' ∧ d = 'n' then '\n' :: decodeNewlines t
    else c :: decodeNewlines (d :: t)

def splitOnce (t separator : Text) : Option (Text × Text) :=
  match t with
  | [] => if separator.isEmpty then some ([], []) else none
  | c :: t =>
    if separator.isPrefixOf (c :: t) then some ([], (c :: t).drop separator.length)
    else (splitOnce t separator).map fun (before, after) => (c :: before, after)

end Dictation.Text
