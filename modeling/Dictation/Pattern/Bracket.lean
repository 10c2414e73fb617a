import Dictation.Pattern.Escape

namespace Dictation.Pattern

structure ReadSet where
  set : CharSet
  depth : Nat
  weight : Nat

namespace Bracket

structure Items where
  set : CharSet := fun _ => false
  count : Nat := 0
  depth : Nat := 0
  weight : Nat := 32

namespace Items

def add (u : Items) (s : ReadSet) : Items where
  set := fun c => u.set c || s.set c
  count := u.count + 1
  depth := max u.depth s.depth
  weight := u.weight + s.weight

def toSet (u : Items) : ReadSet := ⟨u.set, if 2 ≤ u.count then u.depth + 1 else u.depth, u.weight⟩

end Items

inductive Operation where
  | intersection
  | difference
  | symmetricDifference
  deriving DecidableEq, Repr

def Operation.apply (o : Operation) (a b : CharSet) : CharSet := fun c =>
  match o with
  | .intersection => a c && b c
  | .difference => a c && !b c
  | .symmetricDifference => a c != b c

/-- What is waiting for the list being read: the class around it, or the left side of an operation.
-/
inductive Frame where
  | opened (negated : Bool) (outer : Items)
  | operation (o : Operation) (left : ReadSet)

def single (f : Flags) (c : Char) : Option ReadSet :=
  if !f.unicode && c.toNat > 127 then none else some ⟨(· == c), 0, 8⟩

def primitive (f : Flags) : Text → Option (Primitive × Text)
  | [] => none
  | '\\' :: t => Escape.read? f t
  | c :: t => some (.literal c, t)

def peek (f : Flags) (t : Text) : Option Char :=
  let rest := t.drop 1
  if !f.verbose then rest.head?
  else
    match rest.dropWhile Character.isBlank with
    | '#' :: r => (r.dropWhile Character.isBlank).head?
    | r => r.head?

def item (f : Flags) (t : Text) : Option (ReadSet × Text) :=
  (primitive f t).bind fun (first, t) =>
    let t := f.skip t
    let alone : Option ReadSet := match first with
      | .literal c => single f c
      | .set s w => some ⟨s, 0, w⟩
      | .place _ => none
    match t with
    | [] => none
    | '-' :: rest =>
      if peek f t == some ']' || peek f t == some '-' then alone.map (·, t)
      else
        (primitive f (f.skip rest)).bind fun (second, t) =>
          match first, second with
          | .literal a, .literal b =>
            if a ≤ b && (f.unicode || b.toNat < 128) then
              some (⟨fun c => a ≤ c && c ≤ b, 0, 8⟩, t)
            else none
          | _, _ => none
    | t => alone.map (·, t)

def asciiClass? (f : Flags) (t : Text) : Option (Option ReadSet × Text) :=
  match t with
  | ':' :: t =>
    let (negated, t) := match t with
      | '^' :: t => (true, t)
      | t => (false, t)
    let name := t.takeWhile (· != ':')
    match t.drop name.length with
    | ':' :: ']' :: t =>
      (ClassName.ascii? name).map fun s =>
        let s := f.widen s
        ((if negated then f.complement? s else some s).map fun s => ⟨s, 0, 64⟩, t)
    | _ => none
  | _ => none

/-- Hyphens at the start of a class stand for themselves. -/
def leadingHyphens (f : Flags) (u : Items) : Nat → Text → Option (Items × Text)
  | 0, _ => none
  | k + 1, t => match t with
    | [] => none
    | '-' :: t => leadingHyphens f (u.add ⟨(· == '-'), 0, 8⟩) k (f.skip t)
    | t => some (u, t)

def opening (f : Flags) (t : Text) : Option (Bool × Items × Text) :=
  let (negated, t) := match f.skip t with
    | '^' :: t => (true, f.skip t)
    | t => (false, t)
  (leadingHyphens f {} (t.length + 1) t).bind fun (u, t) =>
    match t with
    | ']' :: r =>
      if u.count = 0 then
        match f.skip r with
        | [] => none
        | r => some (negated, u.add ⟨(· == ']'), 0, 8⟩, r)
      else some (negated, u, t)
    | t => some (negated, u, t)

def combine (f : Flags) (stack : List Frame) (right : ReadSet) : ReadSet × List Frame :=
  match stack with
  | .operation o left :: stack =>
    (⟨o.apply (f.widen left.set) (f.widen right.set), max left.depth right.depth + 1,
      left.weight + right.weight⟩, stack)
  | stack => (right, stack)

def closed? (f : Flags) (negated : Bool) (s : ReadSet) : Option ReadSet :=
  let set := f.widen s.set
  (if negated then f.complement? set else some set).map fun set => ⟨set, s.depth + 1, s.weight⟩

def contents (f : Flags) : Nat → List Frame → Items → Text → Option (ReadSet × Text)
  | 0, _, _, _ => none
  | k + 1, stack, u, t =>
    match f.skip t with
    | [] => none
    | '[' :: t =>
      match asciiClass? f t with
      | some (none, _) => none
      | some (some s, t) => contents f k stack (u.add s) t
      | none => (opening f t).bind fun (negated, inner, t) =>
        contents f k (.opened negated u :: stack) inner t
    | ']' :: t =>
      match combine f stack u.toSet with
      | (s, .opened negated outer :: stack) =>
        (closed? f negated s).bind fun s =>
          if stack.isEmpty then some (s, t) else contents f k stack (outer.add s) t
      | _ => none
    | '&' :: '&' :: t =>
      let (left, stack) := combine f stack u.toSet
      contents f k (.operation .intersection left :: stack) {} t
    | '-' :: '-' :: t =>
      let (left, stack) := combine f stack u.toSet
      contents f k (.operation .difference left :: stack) {} t
    | '~' :: '~' :: t =>
      let (left, stack) := combine f stack u.toSet
      contents f k (.operation .symmetricDifference left :: stack) {} t
    | t => (item f t).bind fun (s, t) => contents f k stack (u.add s) t

def read? (f : Flags) (t : Text) : Option (ReadSet × Text) :=
  (opening f t).bind fun (negated, u, r) => contents f (t.length + 1) [.opened negated {}] u r

end Bracket

end Dictation.Pattern
