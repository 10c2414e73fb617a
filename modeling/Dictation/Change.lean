import Dictation.Text.Basic

namespace Dictation

structure Span where
  start : Nat
  stop : Nat
  deriving DecidableEq, Repr

namespace Span

def length (s : Span) : Nat := s.stop - s.start

def isEmpty (s : Span) : Bool := s.start == s.stop

end Span

def commonStart : Text → Text → Text
  | c :: s, d :: t => if c = d then c :: commonStart s t else []
  | _, _ => []

/-- The changed spans of the new text: none when the texts are equal, otherwise one. The common end
is taken from what follows the common beginning, so the two never overlap. -/
def changes (old new : Text) : List Span :=
  if old = new then []
  else
    let start := commonStart old new
    let oldRest := old.drop start.length
    let newRest := new.drop start.length
    let stop := commonStart oldRest.reverse newRest.reverse
    [⟨start.size, new.size - stop.size⟩]

end Dictation
