
namespace Dictation.Character

def hexDigit? (c : Char) : Option Nat :=
  if '0' ≤ c ∧ c ≤ '9' then some (c.toNat - 48)
  else if 'a' ≤ c ∧ c ≤ 'f' then some (c.toNat - 87)
  else none

def hexNumbers (cs : List Char) : List Nat :=
  go cs none
where
  go : List Char → Option Nat → List Nat
    | [], none => []
    | [], some n => [n]
    | c :: cs, current =>
      match hexDigit? c, current with
      | some d, none => go cs (some d)
      | some d, some n => go cs (some (16 * n + d))
      | none, none => go cs none
      | none, some n => n :: go cs none

def rankIn (a : Array Nat) (x lo hi : Nat) : Nat :=
  if lo < hi then
    let mid := (lo + hi) / 2
    if a[mid]?.getD 0 ≤ x then rankIn a x (mid + 1) hi else rankIn a x lo mid
  else lo
termination_by hi - lo

def rank (a : Array Nat) (x : Nat) : Nat := rankIn a x 0 a.size

/-- A set of characters by its ascending switch points; below the first one nothing belongs to it.
-/
structure CodeSet where
  switches : Array Nat

namespace CodeSet

def ofSteps (steps : String) : CodeSet :=
  ⟨((hexNumbers steps.toList).foldl (fun (acc : Array Nat × Nat) d =>
    (acc.1.push (acc.2 + d), acc.2 + d)) (#[], 0)).1⟩

/-- A character belongs to the set when an odd number of switches lie at or below it. -/
def mem (s : CodeSet) (c : Char) : Bool := rank s.switches c.toNat % 2 == 1

end CodeSet

end Dictation.Character
