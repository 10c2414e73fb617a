import Dictation.Character.Width
import Dictation.Text.Basic

namespace Dictation.Screen

open Character

inductive Ligature where
  | alef
  | lamed
  | buginesePair
  | bugineseYa
  | tifinaghPair
  | tifinagh
  | lisuTone
  | oldTurkicI
  | khmerLetter
  deriving DecidableEq, Repr

inductive Ahead where
  | plain
  | newline
  | tone
  | flagLetter
  | flagLetters
  | emoji
  | joined
  | joinedKeycap
  | joinedFlagLetter
  | joinedFlagEven
  | joinedFlagOdd
  /-- The end of a tag sequence that is joined, with so many letters and digits before it. -/
  | tags (letters digits : Nat)
  | kiratE
  | kiratAi
  | ligature (l : Ligature) (joiner : Bool)
  deriving DecidableEq, Repr

inductive Form where
  | text
  | colourful
  deriving DecidableEq, Repr

structure Following where
  ahead : Ahead
  form : Option Form
  deriving DecidableEq, Repr

namespace Following

def plain : Following := ⟨.plain, none⟩

def of (a : Ahead) : Following := ⟨a, none⟩

/-- Puts a selector before what follows; only ligatures, and emoji that are joined, are seen through
it. -/
def withForm (f : Following) (form : Form) : Following :=
  match f.ahead, form with
  | .ligature _ _, _ => ⟨f.ahead, some form⟩
  | .joined, .colourful | .joinedKeycap, .colourful => ⟨f.ahead, some form⟩
  | _, _ => ⟨.plain, some form⟩

def withoutForm (f : Following) : Following :=
  match f.ahead with
  | .ligature _ _ => ⟨f.ahead, none⟩
  | _ => .plain

end Following

def isLam (c : Char) : Bool :=
  c == '\u0644' || ('\u06b5' ≤ c && c ≤ '\u06b8') || c == '\u076a' || c == '\u08a6' || c == '\u08c7'

def isAlef (c : Char) : Bool :=
  c == '\u0622' || c == '\u0623' || c == '\u0625' || c == '\u0627' ||
    ('\u0671' ≤ c && c ≤ '\u0673') ||
    c == '\u0675' || c == '\u0773' || c == '\u0774' || ('\u0870' ≤ c && c ≤ '\u0882')

def isTransparentMark (c : Char) : Bool :=
  let kind := Category.of c
  hasNoWidth c && (kind == .nonspacingMark || kind == .enclosingMark || kind == .format) &&
    !(isAttachedSign c && c != '\u070f' && c != '\ua8fa') && c != '\u180e' && c != '\u200c' &&
    c != '\u200d' && !('\u2066' ≤ c && c ≤ '\u2069')

def isHiddenMark (c : Char) : Bool :=
  c == '\u034f' || c == '\u17b4' || c == '\u17b5' || ('\u180b' ≤ c && c ≤ '\u180d') ||
    c == '\u180f' ||
    c == '\u200d' || ('\ufe00' ≤ c && c ≤ '\ufe0f') || (0xE0100 ≤ c.toNat && c.toNat ≤ 0xE01EF)

def isTifinagh (c : Char) : Bool := ('\u2d31' ≤ c && c ≤ '\u2d65') || c == '\u2d6f'

def khmerWithoutSubscript : List Char :=
  ['\u1783', '\u1788', '\u178d', '\u1794', '\u1799', '\u179a', '\u179e', '\u179f', '\u17a1',
    '\u17a3', '\u17a4', '\u17a5', '\u17a6', '\u17a8', '\u17a9', '\u17aa', '\u17ad', '\u17ae']

def isKhmerSubscript (c : Char) : Bool :=
  '\u1780' ≤ c && c ≤ '\u17af' && !khmerWithoutSubscript.contains c

def isFlagLetter (c : Char) : Bool := 0x1F1E6 ≤ c.toNat && c.toNat ≤ 0x1F1FF

def isTone (c : Char) : Bool := 0x1F3FB ≤ c.toNat && c.toNat ≤ 0x1F3FF

def isTagLetter (c : Char) : Bool := 0xE0061 ≤ c.toNat && c.toNat ≤ 0xE007A

def isTagDigit (c : Char) : Bool := 0xE0030 ≤ c.toNat && c.toNat ≤ 0xE0039

def isColourful (c : Char) : Bool := emojiPresentation.mem c && !isFlagLetter c && !isTone c

def otherTextForms : CodeSet := .ofSteps
    "1f004 1 308 3 5 1 6 1 5b 1 1a 1 13 1 4 3 13 1 1 1 1 1 3 1 15 1 c 1 1a 1 c 1 9 1 6 1 1b 1 3 4 3
2 4 1 16 1 12 1 25 1 c 1 2 1 7 1 3 1 b 1 e 1 4 1 4 3 3 4 9 1 1 3 c 1 4 1 4 2 3c 18 a8 1 76 1 5
1 3 1 2 1 3 1 14 1 4 1 6 2 1 1"

def hasNarrowForm (c : Char) : Bool :=
  emoji.mem c && !isFlagLetter c && !isTone c &&
    (!emojiPresentation.mem c || c.toNat < 0x10000 || otherTextForms.mem c) &&
    !(0x1F200 ≤ c.toNat && c.toNat ≤ 0x1F2FF)

def takesForm (c : Char) : Bool :=
  emoji.mem c && !isFlagLetter c && !isTone c &&
    (!emojiPresentation.mem c || c.toNat < 0x10000 || otherTextForms.mem c ||
      (0x1F200 ≤ c.toNat && c.toNat ≤ 0x1F2FF))

def aheadOf (c : Char) : Following :=
  if c == '\n' then .of .newline
  else if c ≤ '\u00a0' then .plain
  else if c == '\u05dc' then .of (.ligature .lamed false)
  else if isAlef c then .of (.ligature .alef false)
  else if isKhmerSubscript c then .of (.ligature .khmerLetter true)
  else if c == '\u1a10' then .of (.ligature .bugineseYa false)
  else if isTifinagh c then .of (.ligature .tifinagh false)
  else if c == '\ua4fc' || c == '\ua4fd' then .of (.ligature .lisuTone true)
  else if c == '\ufe0e' then ⟨.plain, some .text⟩
  else if c == '\ufe0f' then ⟨.plain, some .colourful⟩
  else if c.toNat == 0x10C03 then .of (.ligature .oldTurkicI false)
  else if c.toNat == 0x16D67 then .of .kiratE
  else if c.toNat == 0x16D68 then .of .kiratAi
  else if isFlagLetter c then .of .flagLetter
  else if isTone c then .of .tone
  else if isColourful c then .of .emoji
  else .plain

/-- The columns that a character adds before a ligature it is part of, and what it is then. -/
def joinLigature? (c : Char) (l : Ligature) (joiner : Bool) : Option (Int × Following) :=
  match l, joiner with
  | .alef, _ =>
    if isLam c then some (0, .plain)
    else if isTransparentMark c then some (0, .of (.ligature .alef false))
    else none
  | .lamed, true => if c == '\u05d0' then some (0, .plain) else none
  | .khmerLetter, _ => if c == '\u17d2' then some (-1, .plain) else none
  | .bugineseYa, true => if c == '\u1a17' then some (0, .of (.ligature .buginesePair true))
    else none
  | .buginesePair, _ => if c == '\u1a15' then some (0, .plain) else none
  | .tifinagh, joiner =>
    if c == '\u2d7f' then some (1, .of (.ligature .tifinaghPair true))
    else if joiner && isTifinagh c then some (0, .plain)
    else none
  | .tifinaghPair, _ => if isTifinagh c then some (-1, .plain) else none
  | .lisuTone, _ => if '\ua4f8' ≤ c && c ≤ '\ua4fb' then some (0, .plain) else none
  | .oldTurkicI, true => if c.toNat == 0x10C32 then some (0, .plain) else none
  | _, _ => none

def join? (c : Char) : Ahead → Option (Int × Following)
  | .ligature l joiner => joinLigature? c l joiner
  | .tone =>
    if c == '\u200d' then some (0, .of .joined)
    else if emojiModifierBase.mem c then some (0, .of .emoji)
    else none
  | .flagLetter => if isFlagLetter c then some (1, .of .flagLetters) else none
  | .flagLetters =>
    if isFlagLetter c then some (1, .of .flagLetters)
    else if c == '\u200d' then some (0, .of .joined)
    else none
  | .emoji => if c == '\u200d' then some (0, .of .joined) else none
  | .joined =>
    if c == '\u20e3' then some (0, .of .joinedKeycap)
    else if isFlagLetter c then some (1, .of .joinedFlagLetter)
    else if isTone c then some (0, .of .tone)
    else if c.toNat == 0xE007F then some (0, .of (.tags 0 0))
    else if isColourful c then some (0, .of .emoji)
    else none
  | .joinedFlagLetter => if isFlagLetter c then some (-1, .of .joinedFlagEven) else none
  | .joinedFlagOdd =>
    if isFlagLetter c then some (-1, .of .joinedFlagEven)
    else if c == '\u200d' then some (0, .of .joined)
    else none
  | .joinedFlagEven =>
    if isFlagLetter c then some (3, .of .joinedFlagOdd)
    else if c == '\u200d' then some (0, .of .joined)
    else none
  | .tags letters digits =>
    if digits == 0 && letters < 6 && isTagLetter c then some (0, .of (.tags (letters + 1) 0))
    else if digits < 3 && (digits != 0 || letters < 5) && isTagDigit c then
      some (0, .of (.tags letters (digits + 1)))
    else if c.toNat == 0x1F3F4 &&
      (digits == 3 || (digits == 0 && 3 ≤ letters)) then some (0, .of .emoji)
    else none
  | .kiratE =>
    if c.toNat == 0x16D63 || c.toNat == 0x16D69 then some (0, .plain)
    else if c.toNat == 0x16D67 then some (0, .of .kiratAi)
    else if c.toNat == 0x16D68 then some (1, .of .kiratE)
    else none
  | .kiratAi => if c.toNat == 0x16D63 then some (0, .plain) else none
  | .plain | .newline | .joinedKeycap => none

/-- The columns that a character adds, and what it is to those before it. In a text, a control
character takes one column, and a return and a newline together one. -/
def place (c : Char) (next : Following) : Int × Following :=
  if next.form = some .colourful ∧ takesForm c then
    (if next.ahead = .joined ∨ next.ahead = .joinedKeycap then 0 else 2, .of .emoji)
  else
    let next := if next.form = some .colourful then next.withoutForm else next
    if c ≤ '\u00a0' then (if c == '\r' && next == .of .newline then 0 else 1, aheadOf c)
    else if c == '\ufe0f' then (0, next.withForm .colourful)
    else if c == '\ufe0e' then (0, next.withForm .text)
    else if next.form = some .text ∧ hasNarrowForm c then (1, .plain)
    else
      let next := if next.form = some .text then next.withoutForm else next
      match next.ahead with
      | .ligature l joiner =>
        if l ≠ .alef ∧ c == '\u200d' then (0, .of (.ligature l true))
        else if l ≠ .alef ∧ isHiddenMark c then (0, next)
        else (joinLigature? c l joiner).getD (width c, aheadOf c)
      | ahead => (join? c ahead).getD (width c, aheadOf c)

def measure (t : Text) : Int × Following :=
  t.foldr (fun c (sum, next) => let (n, f) := place c next; (sum + n, f)) (0, .plain)

def columns (t : Text) : Nat := (measure t).1.toNat

end Dictation.Screen
