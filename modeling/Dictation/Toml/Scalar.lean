import Dictation.Toml.Value
import Dictation.Text.Decimal

namespace Dictation.Toml

def isSpace (c : Char) : Bool := c == ' ' || c == '\t'

def isPlain (c : Char) : Bool := c == '\t' || (' ' ≤ c && c != '\x7f')

def hexValue? (c : Char) : Option Nat :=
  if c.isDigit then some (c.toNat - 48)
  else if 'a' ≤ c && c ≤ 'f' then some (c.toNat - 87)
  else if 'A' ≤ c && c ≤ 'F' then some (c.toNat - 55)
  else none

def codeChar? (digits : List Char) : Option Char :=
  (digits.mapM hexValue?).bind fun ds =>
    let n := ds.foldl (fun n d => 16 * n + d) 0
    if n.isValidChar then some (Char.ofNat n) else none

def escaped? : Char → Option Char
  | 'b' => some '\x08'
  | 't' => some '\t'
  | 'n' => some '\n'
  | 'f' => some '\x0c'
  | 'r' => some '\r'
  | '"' => some '"'
  | '\\' => some '\\'
  | _ => none

def before (c : Option Char) (r : Option (Text × Text)) : Option (Text × Text) :=
  c.bind fun c => r.map fun (s, t) => (c :: s, t)

def quoted? : Text → Option (Text × Text)
  | [] => none
  | '"' :: t => some ([], t)
  | '\\' :: 'u' :: a :: b :: c :: d :: t => before (codeChar? [a, b, c, d]) (quoted? t)
  | '\\' :: 'U' :: a :: b :: c :: d :: e :: f :: g :: h :: t =>
    before (codeChar? [a, b, c, d, e, f, g, h]) (quoted? t)
  | '\\' :: c :: t => before (escaped? c) (quoted? t)
  | c :: t => if isPlain c && c != '\\' then before (some c) (quoted? t) else none

def literal? : Text → Option (Text × Text)
  | [] => none
  | '\'' :: t => some ([], t)
  | c :: t => if isPlain c then before (some c) (literal? t) else none

/-- Where a string of several lines is being read: in its text, behind a backslash at the end of a
line, or in the blanks after that line. -/
inductive Fold where
  | text
  | lineEnd
  | blanks
  deriving DecidableEq, Repr

/-- Reads a string of several lines. Up to two quotes may stand before the closing ones. A backslash
at the end of a line takes away the line's end and the blanks that follow. -/
def quotedLines? : Fold → Text → Option (Text × Text)
  | _, [] => none
  | .lineEnd, '\r' :: '\n' :: t => quotedLines? .blanks t
  | .lineEnd, c :: t =>
    if c = '\n' then quotedLines? .blanks t else if isSpace c then quotedLines? .lineEnd t else none
  | _, '"' :: '"' :: '"' :: '"' :: '"' :: t => some (['"', '"'], t)
  | _, '"' :: '"' :: '"' :: '"' :: t => some (['"'], t)
  | _, '"' :: '"' :: '"' :: t => some ([], t)
  | _, '\\' :: 'u' :: a :: b :: c :: d :: t =>
    before (codeChar? [a, b, c, d]) (quotedLines? .text t)
  | _, '\\' :: 'U' :: a :: b :: c :: d :: e :: f :: g :: h :: t =>
    before (codeChar? [a, b, c, d, e, f, g, h]) (quotedLines? .text t)
  | _, '\\' :: '\r' :: '\n' :: t => quotedLines? .blanks t
  | _, '\\' :: c :: t =>
    if c = '\n' then quotedLines? .blanks t
    else if isSpace c then quotedLines? .lineEnd t
    else before (escaped? c) (quotedLines? .text t)
  | fold, '\r' :: '\n' :: t =>
    if fold = .blanks then quotedLines? .blanks t else before (some '\n') (quotedLines? .text t)
  | fold, c :: t =>
    if fold = .blanks ∧ (isSpace c ∨ c = '\n') then quotedLines? .blanks t
    else if (isPlain c && c != '\\') || c == '\n' then before (some c) (quotedLines? .text t)
    else none

def literalLines? : Text → Option (Text × Text)
  | [] => none
  | '\'' :: '\'' :: '\'' :: '\'' :: '\'' :: t => some (['\'', '\''], t)
  | '\'' :: '\'' :: '\'' :: '\'' :: t => some (['\''], t)
  | '\'' :: '\'' :: '\'' :: t => some ([], t)
  | '\r' :: '\n' :: t => before (some '\n') (literalLines? t)
  | c :: t => if isPlain c || c == '\n' then before (some c) (literalLines? t) else none

def dropNewline : Text → Text
  | '\n' :: t => t
  | '\r' :: '\n' :: t => t
  | t => t

def string? : Text → Option (Text × Text)
  | '"' :: '"' :: '"' :: t => quotedLines? .text (dropNewline t)
  | '"' :: t => quoted? t
  | '\'' :: '\'' :: '\'' :: t => literalLines? (dropNewline t)
  | '\'' :: t => literal? t
  | _ => none

def digits? (isDigit : Char → Bool) : Text → Option Text
  | [] => none
  | [c] => if isDigit c then some [c] else none
  | c :: '_' :: t => if isDigit c then (digits? isDigit t).map (c :: ·) else none
  | c :: t => if isDigit c then (digits? isDigit t).map (c :: ·) else none

def whole? (t : Text) : Option Text :=
  (digits? Char.isDigit t).filter fun ds => ds.length == 1 || ds.head? != some '0'

def dropSign : Text → Bool × Text
  | '+' :: t => (false, t)
  | '-' :: t => (true, t)
  | t => (false, t)

def integer? (t : Text) : Option Int :=
  let natural (base : Nat) (isDigit : Char → Bool) (t : Text) : Option Int :=
    (digits? isDigit t).bind fun ds =>
      let n := ds.foldl (fun n c => base * n + (hexValue? c).getD 0) 0
      if n < Nat.pow 2 63 then some n else none
  match t with
  | '0' :: 'x' :: t => natural 16 (fun c => (hexValue? c).isSome) t
  | '0' :: 'o' :: t => natural 8 (fun c => '0' ≤ c && c ≤ '7') t
  | '0' :: 'b' :: t => natural 2 (fun c => c == '0' || c == '1') t
  | t =>
    let (negative, t) := dropSign t
    (whole? t).bind fun ds =>
      let n := Text.digitsValue ds
      if negative then if n ≤ Nat.pow 2 63 then some (-n) else none
      else if n < Nat.pow 2 63 then some n else none

/-- Whether the decimal number `m * 10 ^ (up - down)` rounds to a floating-point number of 64 bits.
-/
def isFinite (m up down : Nat) : Bool :=
  if m = 0 then true
  else
    let length := (Nat.repr m).length
    if down + 310 < length + up then false
    else if length + up < down + 308 then true
    else m * Nat.pow 10 (up - down) < (Nat.pow 2 1024 - Nat.pow 2 970) * Nat.pow 10 (down - up)

/-- Whether a text is a number with a fraction or an exponent. One too great to be represented is
not, unless it is negative. -/
def isFloat (t : Text) : Bool :=
  let (negative, body) := dropSign t
  if body = "inf".toList ∨ body = "nan".toList then true
  else
    let mantissa := body.takeWhile fun c => c != 'e' && c != 'E'
    let exponent := body.drop mantissa.length
    let front := mantissa.takeWhile (· != '.')
    let back := mantissa.drop front.length
    if back.isEmpty && exponent.isEmpty then false
    else
      let fraction := if back.isEmpty then some [] else digits? Char.isDigit (back.drop 1)
      let (down, power) := dropSign (exponent.drop 1)
      let power := if exponent.isEmpty then some ['0'] else digits? Char.isDigit power
      match whole? front, fraction, power with
      | some w, some f, some p =>
        let p := Text.digitsValue p
        negative || (if down then isFinite (Text.digitsValue (w ++ f)) 0 (f.length + p)
          else isFinite (Text.digitsValue (w ++ f)) p f.length)
      | _, _, _ => false

def twoDigits? (least most : Nat) (a b : Char) : Option Nat :=
  if a.isDigit && b.isDigit then
    let n := Text.digitsValue [a, b]
    if least ≤ n ∧ n ≤ most then some n else none
  else none

def daysIn (year month : Nat) : Nat :=
  if month = 2 then if year % 4 = 0 ∧ (year % 100 ≠ 0 ∨ year % 400 = 0) then 29 else 28
  else if month = 4 ∨ month = 6 ∨ month = 9 ∨ month = 11 then 30
  else 31

def date? : Text → Option Text
  | y₁ :: y₂ :: y₃ :: y₄ :: '-' :: m₁ :: m₂ :: '-' :: d₁ :: d₂ :: t =>
    if [y₁, y₂, y₃, y₄].all Char.isDigit then
      (twoDigits? 1 12 m₁ m₂).bind fun month =>
        (twoDigits? 1 (daysIn (Text.digitsValue [y₁, y₂, y₃, y₄]) month) d₁ d₂).map fun _ => t
    else none
  | _ => none

def time? : Text → Option Text
  | h₁ :: h₂ :: ':' :: m₁ :: m₂ :: ':' :: s₁ :: s₂ :: t =>
    match twoDigits? 0 23 h₁ h₂, twoDigits? 0 59 m₁ m₂, twoDigits? 0 60 s₁ s₂ with
    | some _, some _, some _ =>
      match t with
      | '.' :: c :: t => if c.isDigit then some (t.dropWhile Char.isDigit) else none
      | t => some t
    | _, _, _ => none
  | _ => none

def isOffset : Text → Bool
  | ['Z'] | ['z'] => true
  | [sign, h₁, h₂, ':', m₁, m₂] =>
    (sign == '+' || sign == '-') && (twoDigits? 0 23 h₁ h₂).isSome && (twoDigits? 0 59 m₁ m₂).isSome
  | _ => false

def isDayTime (t : Text) : Bool := (time? t).any fun rest => rest.isEmpty || isOffset rest

def isMoment (t : Text) : Bool :=
  match date? t with
  | some [] => true
  | some (c :: rest) => (c == 'T' || c == 't') && isDayTime rest
  | none => (time? t).any (·.isEmpty)

def isWordChar (c : Char) : Bool := c.isAlphanum || c == '+' || c == '-' || c == '_' || c == '.' ||
    c == ':'

def word? (w : Text) : Option Value :=
  if w = "true".toList then some (.boolean true)
  else if w = "false".toList then some (.boolean false)
  else if isMoment w then some .moment
  else if isFloat w then some .float
  else (integer? w).map .integer

def bare? (t : Text) : Option (Value × Text) :=
  let w := t.takeWhile isWordChar
  let rest := t.drop w.length
  match date? w, rest with
  | some [], ' ' :: rest =>
    let clock := rest.takeWhile isWordChar
    if isDayTime clock then some (.moment, rest.drop clock.length) else some (.moment, ' ' :: rest)
  | _, rest => (word? w).map (·, rest)

def scalar? (t : Text) : Option (Value × Text) :=
  match t with
  | '"' :: _ | '\'' :: _ => (string? t).map fun (s, rest) => (.string s, rest)
  | t => bare? t

end Dictation.Toml
