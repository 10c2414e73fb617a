import Dictation.Character.Property

namespace Dictation.Character

def wide : CodeSet := .ofSteps
    "1100 60 11ba 2 d 2 be 4 3 1 2 1 209 2 15 2 1a 8 10 c 2b 1 a 6 3 1 d 1 8 2 11 2 5 2 8 1 5 1 15
1 7 2 1 1 4 1 2 1 7 1 4 2 1c 1 23 1 1 1 4 3 1 1 3d 3 18 1 e 1 35b 2 33 1 4 1 32a 1a 1 59 c d6
1a 4f 2 56 2 67 5 2b 1 5e 1 56 9 30 1 28 8 723d 3 37 499 1d 283 2ba4 215c 200 310 a 16 23 1 13
1 4 95 60 7f 7 6ff9 5 b 7 9 1cd6 29 20 61 73 21fd 4 1 7 1 2 1 123 f 1 1d 3 2 1 e 4 8 18c 2004
57 9 17 1c8d 1 ca 1 be 1 2 a 65 3 d 2c 4 9 7 2 e 6 9a 21 c 9 1 46 1 16 c 2b 4 5 c 11 3 1 3 47
1 1 1 bb 2 3f d 4 1 18 12 1 1a 2 d 1 56 55 30 46 6 1 3 3 2 4 3 4 b 2 7 9 e3 c 4 1 11b 2f 1 a 1
b9 70 d 3 b 3 39 1 1 4 10 2 c 4 a 507 fffe 2 fffe"

/-- The vowels and final consonants of Hangul that join the syllable before them. -/
def isJoiningJamo (c : Char) : Bool :=
  ('\u1160' ≤ c && c ≤ '\u11ff') || ('\ud7b0' ≤ c && c ≤ '\ud7c6') || ('\ud7cb' ≤ c && c ≤ '\ud7fb')

def isAttachedSign (c : Char) : Bool :=
  ['\u0605', '\u070f', '\u0890', '\u0891', '\u08e2', '\ua8fa'].contains c

/-- Characters that take no column of their own: what may be ignored, what extends the character
before it, and what joins another. -/
def hasNoWidth (c : Char) : Bool :=
  c != '\u115f' && c != '\u2d7f' &&
    (defaultIgnorable.mem c || isGraphemeExtend c || isJoiningJamo c || isAttachedSign c)

def width (c : Char) : Nat :=
  if c < ' ' || ('\x7f' ≤ c && c < '\u00a0') then 0
  else if c ≤ '\u00a0' then 1
  else if c == '\u17d8' then 3
  else if c == '\u17a4' then 2
  else if hasNoWidth c then 0
  else if wide.mem c then 2
  else 1

end Dictation.Character
