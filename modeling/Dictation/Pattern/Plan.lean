import Dictation.Pattern.Reach

namespace Dictation.Pattern

inductive Plan where
  | skip
  /-- Over one character; `good` are the positions after which a match remains. -/
  | step (good : Positions)
  | place (good : Positions)
  | seq (a b : Plan)
  | choose (first : Positions) (a b : Plan)
  | opt (greedy : Bool) (inside outside : Positions) (a : Plan)
  | loop (greedy : Bool) (inside outside : Positions) (a : Plan)
  | again (greedy : Bool) (inside outside : Positions) (a : Plan)
  /-- Once and then as a loop, with a body that may match nothing. -/
  | cycle (greedy : Bool) (inside outside : Positions) (a : Plan)
  | group (index : Nat) (a : Plan)

/-- The plan of a pattern in a text of `n` characters, for matches that end in `goal`. -/
def plan (n : Nat) : Located → Positions → Plan
  | .empty, _ => .skip
  | .one s, goal => .step (s.inter goal.before)
  | .place s, goal => .place (s.inter goal)
  | .seq p q, goal => .seq (plan n p (reach n q goal)) (plan n q goal)
  | .alt p q, goal => .choose (reach n p goal) (plan n p goal) (plan n q goal)
  | .opt greedy p, goal => .opt greedy (reach n p goal) goal (plan n p goal)
  | .star greedy p, goal =>
    let rest := closure (reach n p) goal (n + 1) goal
    let inside := reach n p rest
    let body := plan n p rest
    if p.nullable then .opt greedy inside goal (.cycle greedy inside goal body)
    else .loop greedy inside goal body
  | .plus greedy p, goal =>
    let rest := closure (reach n p) goal (n + 1) goal
    let inside := reach n p rest
    let body := plan n p rest
    if p.nullable then .cycle greedy inside goal body else .again greedy inside goal body
  | .group i p, goal => .group i (plan n p goal)

structure Progress where
  position : Nat
  groups : List (Nat × Nat × Nat)
  deriving DecidableEq, Repr

namespace Progress

def advance (s : Progress) : Progress := { s with position := s.position + 1 }

def record (s : Progress) (index start : Nat) : Progress :=
  { s with groups := (index, start, s.position) :: s.groups }

end Progress

/-- Choice points tried at the present position. -/
abbrev Tried := List Nat

abbrev Trial := Tried → Except Tried Progress

namespace Trial

def fail : Trial := .error

def orElse (a b : Trial) : Trial := fun tried =>
  match a tried with
  | .ok s => .ok s
  | .error tried => b tried

def prefer (first : Bool) (a b : Trial) : Trial := if first then a.orElse b else b.orElse a

def once (point : Nat) (a : Trial) : Trial := fun tried =>
  if tried.contains point then .error tried else a (point :: tried)

def moved (a : Trial) : Trial := fun tried =>
  match a [] with
  | .ok s => .ok s
  | .error _ => .error tried

end Trial

def rounds (body : Progress → (Progress → Trial) → Trial) (point : Nat) (greedy : Bool)
    (leave : Progress → Trial) : Nat → Progress → Trial
  | 0, _ => .fail
  | n + 1, s => .once point (.prefer greedy (body s (rounds body point greedy leave n)) (leave s))

/-- Tries a plan out and goes on with `next`. Choice points are numbered like the nodes of a binary
tree. -/
def explore (n : Nat) : Plan → Nat → Progress → (Progress → Trial) → Trial
  | .skip, _, s, next => next s
  | .step good, _, s, next => if good.mem s.position then .moved (next s.advance) else .fail
  | .place good, _, s, next => if good.mem s.position then next s else .fail
  | .seq a b, point, s, next =>
    explore n a (2 * point) s fun s => explore n b (2 * point + 1) s next
  | .choose _ a b, point, s, next =>
    .once point ((explore n a (2 * point) s next).orElse (explore n b (2 * point + 1) s next))
  | .opt greedy _ _ a, point, s, next =>
    .once point (.prefer greedy (explore n a (2 * point) s next) (next s))
  | .loop greedy _ _ a, point, s, next =>
    rounds (explore n a (2 * point)) point greedy next (n + 2) s
  | .again greedy _ _ a, point, s, next =>
    explore n a (2 * point) s (rounds (explore n a (2 * point)) point greedy next (n + 2))
  | .cycle greedy _ _ a, point, s, next =>
    explore n a (2 * point) s (rounds (explore n a (2 * point)) point greedy next (n + 2))
  | .group i a, point, s, next =>
    explore n a (2 * point) s fun r => next (r.record i s.position)

def enters (greedy : Bool) (inside outside : Positions) (i : Nat) : Bool :=
  if greedy then inside.mem i else !outside.mem i

def repeatWhile (test : Nat → Bool) (f : Progress → Progress) : Nat → Progress → Progress
  | 0, s => s
  | n + 1, s => if test s.position then repeatWhile test f n (f s) else s

def follow (n : Nat) : Plan → Progress → Progress
  | .skip, s => s
  | .step _, s => s.advance
  | .place _, s => s
  | .seq a b, s => follow n b (follow n a s)
  | .choose first a b, s => if first.mem s.position then follow n a s else follow n b s
  | .opt greedy inside outside a, s =>
    if enters greedy inside outside s.position then follow n a s else s
  | .loop greedy inside outside a, s =>
    repeatWhile (enters greedy inside outside) (follow n a) n s
  | .again greedy inside outside a, s =>
    repeatWhile (enters greedy inside outside) (follow n a) n (follow n a s)
  | .cycle greedy inside outside a, s =>
    let leave (r : Progress) : Trial := if outside.mem r.position then fun _ => .ok r else .fail
    match explore n (.cycle greedy inside outside a) 1 s leave [] with
    | .ok r => r
    | .error _ => s
  | .group i a, s => (follow n a s).record i s.position

end Dictation.Pattern
