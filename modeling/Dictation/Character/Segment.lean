import Dictation.Character.Property
import Dictation.Character.Script

namespace Dictation.Character.Segment

/-- The sets of characters by which the ends of characters, words or sentences are found. -/
abbrev Classes := List (List String × (Char → Bool))

def joiner : Char := '\u200d'

def isExtend (c : Char) : Bool := (isGraphemeExtend c || emojiModifier.mem c) && c != joiner

def isControl (c : Char) : Bool :=
  let kind := Category.of c
  (kind == .lineSeparator || kind == .paragraphSeparator || kind == .control || kind == .format ||
      (kind == .unassigned && defaultIgnorable.mem c)) &&
    !(c == '\r' || c == '\n' || c == joiner || prependedConcatenationMark.mem c || isExtend c)

def notSpacing : CodeSet := .ofSteps
    "102b 2 b 1 29 3 2 7 15 1 3 6 2 1 a 3 9c4 1 1 2 9016 1 1 1 6ca2 2"

def isSpacing (c : Char) : Bool :=
  (Category.of c == .spacingMark || c == '\u0e33' || c == '\u0eb3') &&
    !(isExtend c || notSpacing.mem c)

def prepended : CodeSet := .ofSteps
    "d4e 1 10473 2 20d 1 56d 1 1 1 142 6 2bc 1 1bb 1"

def leadingJamo : CodeSet := .ofSteps
    "1100 60 9800 1d"

def vowelJamo : CodeSet := .ofSteps
    "1160 48 c608 17 959c 1 3 4"

def trailingJamo : CodeSet := .ofSteps
    "11a8 58 c5cb 31"

/-- Whole Hangul syllables, with a trailing consonant or bare; every 28th is bare. -/
def isSyllable (bare : Bool) (c : Char) : Bool :=
  '\uac00' ≤ c && c ≤ '\ud7a3' && ((c.toNat - 0xac00) % 28 == 0) == bare

def graphemes : Classes := [
  (["cr"], (· == '\r')),
  (["lf"], (· == '\n')),
  (["control", "cn"], isControl),
  (["extend", "ex"], isExtend),
  (["zwj"], (· == joiner)),
  (["regionalindicator", "ri"], regionalIndicator.mem),
  (["prepend", "pp"], fun c => prepended.mem c || prependedConcatenationMark.mem c),
  (["spacingmark", "sm"], isSpacing),
  (["l"], leadingJamo.mem),
  (["v"], vowelJamo.mem),
  (["t"], trailingJamo.mem),
  (["lv"], isSyllable true),
  (["lvt"], isSyllable false)]

def isWordExtend (c : Char) : Bool := isExtend c || Category.of c == .spacingMark

def isWordFormat (c : Char) : Bool :=
  Category.of c == .format &&
    !(c == '\u200b' || c == joiner || prependedConcatenationMark.mem c || isWordExtend c)

def otherKatakana : CodeSet := .ofSteps
    "3031 5 65 2 3 1 5b 1 ce73 1"

def isKatakana (c : Char) : Bool := Script.of c == "Kana" || otherKatakana.mem c

def isHebrewLetter (c : Char) : Bool := Script.of c == "Hebr" && Category.of c == .otherLetter

/-- Characters of scripts whose words are not told apart by spaces. -/
def complexContext : CodeSet := .ofSteps
    "e01 3a 5 f 32 2 1 1 1 5 1 18 1 1 1 17 2 5 1 1 1 7 d 4 120 40 10 40 a 6 6e0 54 3 1 4 2 172 1e
2 5 b 2c 4 1a 10 1 3 2 40 3f 1 1d 23 e 8f32 10 a 5 61 63 18 5 6c20 1b 2 f e 2 3 8"

def otherWordLetter : CodeSet := .ofSteps
    "b8 1 209 4 c 6 6 2 5 7 1 1 1 11 25a 3 1 1 2b 1 68 1 11b 1 9ff8 f 9 2 67 2 3d0 1"

def isWordLetter (c : Char) : Bool :=
  (isAlphabetic c || otherWordLetter.mem c) &&
    !(ideographic.mem c || isKatakana c || complexContext.mem c || Script.of c == "Hira" ||
      isWordExtend c || isHebrewLetter c)

def isNumeric (c : Char) : Bool :=
  Category.of c == .decimalNumber || c == '\u066b' || c == '\u19da' ||
    (prependedConcatenationMark.mem c && c != '\u070f')

def midLetter : CodeSet := .ofSteps
    "3a 1 7c 1 2cf 1 1d7 1 94 1 1a32 1 ddeb 1 41 1 c4 1"

def midNumber : CodeSet := .ofSteps
    "2c 1 e 1 342 1 20a 1 82 2 5e 1 18b 1 184b 1 de0b 1 3 1 b7 1 e 1"

def midBoth : CodeSet := .ofSteps
    "2e 1 1fe9 2 a 1 de2d 1 b4 1 6 1"

def isNewline (c : Char) : Bool :=
  c == '\x0b' || c == '\x0c' || c == '\x85' || c == '\u2028' || c == '\u2029'

def isWordSpace (c : Char) : Bool :=
  Category.of c == .spaceSeparator && !(c == '\xa0' || c == '\u2007' || c == '\u202f')

def words : Classes := [
  (["cr"], (· == '\r')),
  (["lf"], (· == '\n')),
  (["newline", "nl"], isNewline),
  (["extend"], isWordExtend),
  (["zwj"], (· == joiner)),
  (["format", "fo"], isWordFormat),
  (["regionalindicator", "ri"], regionalIndicator.mem),
  (["katakana", "ka"], isKatakana),
  (["hebrewletter", "hl"], isHebrewLetter),
  (["aletter", "le"], isWordLetter),
  (["singlequote", "sq"], (· == '\x27')),
  (["doublequote", "dq"], (· == '\x22')),
  (["midnumlet", "mb"], midBoth.mem),
  (["midletter", "ml"], midLetter.mem),
  (["midnum", "mn"], midNumber.mem),
  (["numeric", "nu"], isNumeric),
  (["extendnumlet", "ex"], fun c => Category.of c == .connectorPunctuation || c == '\u202f'),
  (["wsegspace"], isWordSpace)]

def isSentenceExtend (c : Char) : Bool :=
  isGraphemeExtend c || Category.of c == .spacingMark || c == joiner

def isSentenceFormat (c : Char) : Bool :=
  Category.of c == .format && !isSentenceExtend c &&
    (!prependedConcatenationMark.mem c || c == '\u070f')

/-- Georgian small letters have capitals that do not begin sentences. -/
def isSentenceLower (c : Char) : Bool :=
  isLowercase c && !isGraphemeExtend c && !('\u10d0' ≤ c && c ≤ '\u10ff' && c != '\u10fc')

def isSentenceUpper (c : Char) : Bool :=
  (isUppercase c || Category.of c == .titlecaseLetter) && !('\u1c90' ≤ c && c ≤ '\u1cbf')

def isSentenceNumeric (c : Char) : Bool := isNumeric c || c == '\u066c'

def isOtherLetter (c : Char) : Bool :=
  (isAlphabetic c || c == '\u05f3') &&
    !(isSentenceLower c || isSentenceUpper c || isSentenceExtend c || isSentenceNumeric c)

def fullStop : CodeSet := .ofSteps
    "2e 1 1ff5 1 de2d 1 bb 1"

def sentenceContinue : CodeSet := .ofSteps
    "2c 2 c 2 342 1 1de 1 ae 2 1ea 1 1009 1 5 1 80a 2 fec 1 ce0e 2 1 2 1c 2 1d 2 2 2 2 1 a 1 a8 2
c 2 48 1"

def otherQuotation : CodeSet := .ofSteps
    "22 1 4 1 2733 6 69f 2 4 3 2 1 1c86a 3"

def isClose (c : Char) : Bool :=
  let kind := Category.of c
  kind == .openPunctuation || kind == .closePunctuation || kind == .initialPunctuation ||
    kind == .finalPunctuation || otherQuotation.mem c

def isSentenceSpace (c : Char) : Bool :=
  Category.of c == .spaceSeparator || c == '\t' || c == '\x0b' || c == '\x0c'

def sentences : Classes := [
  (["cr"], (· == '\r')),
  (["lf"], (· == '\n')),
  (["extend", "ex"], isSentenceExtend),
  (["sep", "se"], fun c => c == '\x85' || c == '\u2028' || c == '\u2029'),
  (["format", "fo"], isSentenceFormat),
  (["sp"], isSentenceSpace),
  (["lower", "lo"], isSentenceLower),
  (["upper", "up"], isSentenceUpper),
  (["oletter", "le"], isOtherLetter),
  (["numeric", "nu"], isSentenceNumeric),
  (["aterm", "at"], fullStop.mem),
  (["scontinue", "sc"], sentenceContinue.mem),
  (["sterm", "st"], fun c => sentenceTerminal.mem c && !fullStop.mem c),
  (["close", "cl"], isClose)]

def class? (classes : Classes) (name : String) : Option (Char → Bool) :=
  (classes.find? (·.1.contains name)).map (·.2)

end Dictation.Character.Segment
