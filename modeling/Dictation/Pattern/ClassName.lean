import Dictation.Pattern.Basic
import Dictation.Character.Age
import Dictation.Character.Segment

namespace Dictation.Pattern.ClassName

open Character

def plain (name : Text) : String :=
  let letters (t : Text) : Text :=
    (t.filter fun c => c.toNat < 128 && c != ' ' && c != '_' && c != '-').map Char.toLower
  match name with
  | 'i' :: 's' :: t => cut (letters t)
  | 'i' :: 'S' :: t => cut (letters t)
  | 'I' :: 's' :: t => cut (letters t)
  | 'I' :: 'S' :: t => cut (letters t)
  | t => String.ofList (letters t)
where
  /-- The name "isc" is no name for the category "c". -/
  cut (t : Text) : String := if t = ['c'] then "isc" else String.ofList t

def categories : List (List String × (Char → Bool)) := [
  (["any"], fun _ => true),
  (["assigned"], fun c => Category.of c != .unassigned),
  (["ascii"], fun c => c.toNat < 128),
  (["c", "other"], fun c => (Category.of c).isOther),
  (["cc", "control", "cntrl"], fun c => Category.of c == .control),
  (["cf", "format"], fun c => Category.of c == .format),
  (["cn", "unassigned"], fun c => Category.of c == .unassigned),
  (["co", "privateuse"], fun c => Category.of c == .privateUse),
  (["l", "letter"], fun c => (Category.of c).isLetter),
  (["lc", "casedletter"], fun c => (Category.of c).isCasedLetter),
  (["ll", "lowercaseletter"], fun c => Category.of c == .lowercaseLetter),
  (["lm", "modifierletter"], fun c => Category.of c == .modifierLetter),
  (["lo", "otherletter"], fun c => Category.of c == .otherLetter),
  (["lt", "titlecaseletter"], fun c => Category.of c == .titlecaseLetter),
  (["lu", "uppercaseletter"], fun c => Category.of c == .uppercaseLetter),
  (["m", "mark", "combiningmark"], fun c => (Category.of c).isMark),
  (["mc", "spacingmark"], fun c => Category.of c == .spacingMark),
  (["me", "enclosingmark"], fun c => Category.of c == .enclosingMark),
  (["mn", "nonspacingmark"], fun c => Category.of c == .nonspacingMark),
  (["n", "number"], fun c => (Category.of c).isNumber),
  (["nd", "decimalnumber", "digit"], fun c => Category.of c == .decimalNumber),
  (["nl", "letternumber"], fun c => Category.of c == .letterNumber),
  (["no", "othernumber"], fun c => Category.of c == .otherNumber),
  (["p", "punctuation", "punct"], fun c => (Category.of c).isPunctuation),
  (["pc", "connectorpunctuation"], fun c => Category.of c == .connectorPunctuation),
  (["pd", "dashpunctuation"], fun c => Category.of c == .dashPunctuation),
  (["pe", "closepunctuation"], fun c => Category.of c == .closePunctuation),
  (["pf", "finalpunctuation"], fun c => Category.of c == .finalPunctuation),
  (["pi", "initialpunctuation"], fun c => Category.of c == .initialPunctuation),
  (["po", "otherpunctuation"], fun c => Category.of c == .otherPunctuation),
  (["ps", "openpunctuation"], fun c => Category.of c == .openPunctuation),
  (["s", "symbol"], fun c => (Category.of c).isSymbol),
  (["sc", "currencysymbol"], fun c => Category.of c == .currencySymbol),
  (["sk", "modifiersymbol"], fun c => Category.of c == .modifierSymbol),
  (["sm", "mathsymbol"], fun c => Category.of c == .mathSymbol),
  (["so", "othersymbol"], fun c => Category.of c == .otherSymbol),
  (["z", "separator"], fun c => (Category.of c).isSeparator),
  (["zl", "lineseparator"], fun c => Category.of c == .lineSeparator),
  (["zp", "paragraphseparator"], fun c => Category.of c == .paragraphSeparator),
  (["zs", "spaceseparator"], fun c => Category.of c == .spaceSeparator)]

def category? (name : String) : Option CharSet := (categories.find? (·.1.contains name)).map (·.2)

def script? (name : String) : Option CharSet := (Script.named? name).map fun code c =>
  Script.of c == code

def named? (name : Text) : Option CharSet :=
  let name := plain name
  property? name <|> category? name <|> script? name

def valued? (property value : Text) : Option CharSet :=
  let value := plain value
  match plain property with
  | "gc" | "generalcategory" => category? value
  | "sc" | "script" => script? value
  | "scx" | "scriptextensions" => (Script.named? value).map Script.usedWith
  | "age" => presentIn? value
  | "gcb" | "graphemeclusterbreak" => Segment.class? Segment.graphemes value
  | "wb" | "wordbreak" => Segment.class? Segment.words value
  | "sb" | "sentencebreak" => Segment.class? Segment.sentences value
  | _ => none

/-- What stands between the braces of a named class: a name, or a property and a value. The three
ways to put a value to a property mean the same; it is the letter of the escape that tells a set
from its complement. -/
def read? (t : Text) : Option CharSet :=
  match t.splitOnce "!=".toList <|> t.splitOnce [':'] <|> t.splitOnce ['='] with
  | some (property, value) => valued? property value
  | none => named? t

def ascii? (name : Text) : Option CharSet :=
  match String.ofList name with
  | "alnum" => some Char.isAlphanum
  | "alpha" => some Char.isAlpha
  | "ascii" => some fun c => c.toNat < 128
  | "blank" => some fun c => c == ' ' || c == '\t'
  | "cntrl" => some fun c => c.toNat < 32 || c.toNat == 127
  | "digit" => some Char.isDigit
  | "graph" => some fun c => '!' ≤ c && c ≤ '~'
  | "lower" => some Char.isLower
  | "print" => some fun c => ' ' ≤ c && c ≤ '~'
  | "punct" => some fun c => '!' ≤ c && c ≤ '~' && !c.isAlphanum
  | "space" => some fun c => c == ' ' || ('\t' ≤ c && c ≤ '\r')
  | "upper" => some Char.isUpper
  | "word" => some fun c => c.isAlphanum || c == '_'
  | "xdigit" => some fun c => c.isDigit || ('a' ≤ c && c ≤ 'f') || ('A' ≤ c && c ≤ 'F')
  | _ => none

end Dictation.Pattern.ClassName
