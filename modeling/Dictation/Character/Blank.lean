
namespace Dictation.Character

/-- White space: the ASCII blanks and controls from tab to return, next line, and the spaces and
separators beyond ASCII. The zero-width space is not among them. -/
def isBlank (c : Char) : Bool :=
  c == ' ' || ('\t' ≤ c && c ≤ '\r') || c == '\u0085' || c == '\u00a0' || c == '\u1680' ||
  ('\u2000' ≤ c && c ≤ '\u200a') || c == '\u2028' || c == '\u2029' || c == '\u202f' ||
  c == '\u205f' || c == '\u3000'

end Dictation.Character
