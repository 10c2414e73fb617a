import Dictation.Pattern.Basic
import Dictation.Pattern.Positions

namespace Dictation.Pattern

/-- A pattern in one text: sets and conditions as positions. -/
abbrev Located := Shape Positions Positions

def sides : Option Char → Text → List (Option Char × Option Char)
  | previous, [] => [(previous, none)]
  | previous, c :: t => (previous, some c) :: sides (some c) t

def CharSet.locate (t : Text) (s : CharSet) : Positions := .ofFlags (t.map s)

def Place.locate (t : Text) (l : Place) : Positions :=
  .ofFlags ((sides none t).map fun (before, after) => l.holds before after)

def locate (p : Pattern) (t : Text) : Located := p.map (CharSet.locate t) (Place.locate t)

/-- The least set that holds `goal` and, with any set, what `f` makes of it, after at most so many
rounds. -/
def closure (f : Positions → Positions) (goal : Positions) : Nat → Positions → Positions
  | 0, found => found
  | rounds + 1, found =>
    let next := goal.union (f found)
    if next = found then found else closure f goal rounds next

/-- The positions of a text of `n` characters from which a match leads to a position of `goal`. -/
def reach (n : Nat) : Located → Positions → Positions
  | .empty, goal => goal
  | .one s, goal => s.inter goal.before
  | .place s, goal => s.inter goal
  | .seq p q, goal => reach n p (reach n q goal)
  | .alt p q, goal => (reach n p goal).union (reach n q goal)
  | .opt _ p, goal => goal.union (reach n p goal)
  | .star _ p, goal => closure (reach n p) goal (n + 1) goal
  | .plus _ p, goal => reach n p (closure (reach n p) goal (n + 1) goal)
  | .group _ p, goal => reach n p goal

end Dictation.Pattern
