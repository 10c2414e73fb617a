import Dictation.Pattern.Plan

namespace Dictation.Pattern

structure Match where
  start : Nat
  stop : Nat
  groups : List (Nat × Nat × Nat)
  deriving DecidableEq, Repr

/-- The text of a group, group zero being the whole match; nothing when the group took no part. -/
def Match.group? (m : Match) (t : Text) (index : Nat) : Option Text :=
  if index = 0 then some ((t.drop m.start).take (m.stop - m.start))
  else (m.groups.find? (·.1 == index)).map fun (_, start, stop) =>
    (t.drop start).take (stop - start)

structure Search where
  length : Nat
  starts : Positions
  plan : Plan

def search (p : Pattern) (t : Text) : Search :=
  let located := p.locate t
  { length := t.length
    starts := reach t.length located (.all t.length)
    plan := plan t.length located (.all t.length) }

namespace Search

def first? (s : Search) (i : Nat) : Option Match :=
  (s.starts.leastFrom (s.length + 1 - i) i).map fun start =>
    let r := follow s.length s.plan ⟨start, []⟩
    ⟨start, r.position, r.groups⟩

/-- The next match from a position, `last` being where the match before ended. An empty match there
is passed over. -/
def next? (s : Search) (i : Nat) (last : Option Nat) : Option Match :=
  match s.first? i with
  | none => none
  | some m => if m.start == m.stop && some m.stop == last then s.first? (i + 1) else some m

def matchesFrom (s : Search) : Nat → Nat → Option Nat → List Match
  | 0, _, _ => []
  | n + 1, i, last => match s.next? i last with
    | none => []
    | some m => m :: matchesFrom s n m.stop (some m.stop)

end Search

def findAll (p : Pattern) (t : Text) : List Match :=
  (search p t).matchesFrom (2 * t.length + 2) 0 none

def findStart? (p : Pattern) (t : Text) : Option Nat :=
  (reach t.length (p.locate t) (.all t.length)).leastFrom (t.length + 1) 0

def matchesIn (p : Pattern) (t : Text) : Bool := (p.findStart? t).isSome

/-- A text from position `i` on, with every match exchanged for what `f` makes of it. -/
def substitute (t : Text) (f : Match → Text) : Nat → List Match → Text
  | i, [] => t.drop i
  | i, m :: ms => (t.drop i).take (m.start - i) ++ f m ++ substitute t f m.stop ms

def replaceAll (p : Pattern) (t : Text) (f : Match → Text) : Text := substitute t f 0 (p.findAll t)

end Dictation.Pattern
