import Dictation.Pattern.ClassName
import Dictation.Pattern.Flags

namespace Dictation.Pattern

/-- The smallest parts of a pattern. The weight of a set is a measure of how much it takes to match
it. -/
inductive Primitive where
  | literal (c : Char)
  | set (s : CharSet) (weight : Nat)
  | place (l : Place)

namespace Escape

def hex? (c : Char) : Option Nat :=
  if '0' ≤ c ∧ c ≤ '9' then some (c.toNat - 48)
  else if 'a' ≤ c ∧ c ≤ 'f' then some (c.toNat - 87)
  else if 'A' ≤ c ∧ c ≤ 'F' then some (c.toNat - 55)
  else none

def scalar? (n : Nat) : Option Char := if n.isValidChar then some (Char.ofNat n) else none

def fixedHex (f : Flags) : Nat → Nat → Text → Option (Nat × Text)
  | 0, n, t => some (n, t)
  | _ + 1, _, [] => none
  | k + 1, n, c :: t => (hex? c).bind fun d => fixedHex f k (16 * n + d) (f.skip t)

def bracedHex (f : Flags) : Nat → Option Nat → Text → Option (Nat × Text)
  | 0, _, _ => none
  | k + 1, n, t => match f.skip t with
    | [] => none
    | c :: t =>
      if c = '\x7d' then n.map fun n => (n, f.skip t)
      else (hex? c).bind fun d => bracedHex f k (some (16 * n.getD 0 + d)) t

/-- Reads a character by its code point; `letter` tells how many digits there are without braces. -/
def number (f : Flags) (letter : Char) (t : Text) : Option (Char × Text) :=
  match f.skip t with
  | '\x7b' :: t => (bracedHex f (t.length + 1) none t).bind fun (n, t) => (scalar? n).map (·, t)
  | t =>
    let digits := if letter = 'x' then 2 else if letter = 'u' then 4 else 8
    (fixedHex f digits 0 t).bind fun (n, t) =>
      if !f.unicode && letter == 'x' && n > 127 then none else (scalar? n).map (·, t)

def bracedName (f : Flags) : Nat → Text → Option (Text × Text)
  | 0, _ => none
  | k + 1, t => match f.skip t with
    | [] => none
    | c :: t =>
      if c = '\x7d' then some ([], t) else (bracedName f k t).map fun (name, t) => (c :: name, t)

def classSet (f : Flags) (negated : Bool) (t : Text) : Option (CharSet × Text) :=
  if !f.unicode then none
  else
    let found := match f.skip t with
      | [] => none
      | '\\' :: _ => none
      | '\x7b' :: t => (bracedName f (t.length + 1) t).bind fun (name, t) =>
        (ClassName.read? name).map (·, t)
      | c :: t => (ClassName.named? [c]).map (·, f.skip t)
    found.map fun (s, t) =>
      let s := f.widen s
      (if negated then fun c => !s c else s, t)

def isBoundaryLetter (c : Char) : Bool := c.isAlpha || c == '-'

def boundaryName (f : Flags) : Nat → Text → Text × Text
  | 0, t => ([], t)
  | k + 1, t => match t with
    | [] => ([], [])
    | c :: t =>
      if isBoundaryLetter c then
        let (name, t) := boundaryName f k (f.skip t)
        (c :: name, t)
      else ([], c :: t)

/-- A word boundary, whose kind may follow in braces. Braces that do not begin with a letter are
left for a repetition. -/
def boundary (f : Flags) (t : Text) : Option (Place × Text) :=
  let ascii := !f.unicode
  match t with
  | '\x7b' :: inner =>
    match f.skip inner with
    | [] => none
    | c :: r =>
      if !isBoundaryLetter c then some (.wordEdge ascii, t)
      else match boundaryName f (r.length + 1) (c :: r) with
        | (name, '\x7d' :: t) => match String.ofList name with
          | "start" => some (.wordStart ascii, t)
          | "end" => some (.wordEnd ascii, t)
          | "start-half" => some (.noWordBefore ascii, t)
          | "end-half" => some (.noWordAfter ascii, t)
          | _ => none
        | _ => none
  | _ => some (.wordEdge ascii, t)

def isMeta (c : Char) : Bool := "\\.+*?()|[]\x7b\x7d^$#&-~".toList.contains c

/-- A backslash may stand before any ASCII character that is no letter or digit, save the angle
brackets. -/
def isPlain (c : Char) : Bool :=
  isMeta c || (c.toNat < 128 && !c.isAlphanum && c != '<' && c != '>')

def read? (f : Flags) : Text → Option (Primitive × Text)
  | [] => none
  | c :: t =>
    match c with
    | 'x' | 'u' | 'U' => (number f c t).map fun (d, t) => (.literal d, t)
    | 'p' | 'P' => (classSet f (c == 'P') t).map fun (s, t) => (.set s 20000, t)
    | 'd' | 'D' => (f.escapeSet? c).map fun s => (.set s 4000, t)
    | 's' | 'S' => (f.escapeSet? c).map fun s => (.set s 800, t)
    | 'w' | 'W' => (f.escapeSet? c).map fun s => (.set s 50000, t)
    | 'a' => some (.literal '\x07', t)
    | 'f' => some (.literal '\x0c', t)
    | 't' => some (.literal '\t', t)
    | 'n' => some (.literal '\n', t)
    | 'r' => some (.literal '\r', t)
    | 'v' => some (.literal '\x0b', t)
    | 'A' => some (.place .textStart, t)
    | 'z' => some (.place .textEnd, t)
    | 'b' => (boundary f t).map fun (l, t) => (.place l, t)
    | 'B' => some (.place (.notWordEdge (!f.unicode)), t)
    | '<' => some (.place (.wordStart (!f.unicode)), t)
    | '>' => some (.place (.wordEnd (!f.unicode)), t)
    | c => if isPlain c then some (.literal c, t) else none

end Escape

end Dictation.Pattern
