import Dictation.Pattern.Bracket

namespace Dictation.Pattern

/-- A pattern that has been read, how deep it is nested, and how many bytes it takes to match it.
That weight is right for plain text and an estimate for sets, choices and repetitions. -/
structure Node where
  pattern : Pattern
  depth : Nat
  weight : Nat

def totalWeight (ns : List Node) : Nat := ns.foldl (fun weight n => weight + n.weight) 0

inductive Part where
  | node (n : Node)
  | flags

namespace Part

def node? : Part → Option Node
  | node n => some n
  | flags => none

end Part

/-- The inside of a group being read: the alternatives before the last one, and the parts of the
last one; both with the latest first. -/
structure Inside where
  alternatives : List Node := []
  parts : List Part := []

namespace Inside

def sequence (g : Inside) : Node :=
  let nodes := (g.parts.filterMap Part.node?).reverse
  let depth := (nodes.map Node.depth).foldl max 0
  { pattern := Shape.sequence (nodes.map Node.pattern)
    depth := if g.parts.length ≤ 1 then depth else depth + 1
    weight := totalWeight nodes }

def add (g : Inside) (p : Part) : Inside := { g with parts := p :: g.parts }

def nextAlternative (g : Inside) : Inside := ⟨g.sequence :: g.alternatives, []⟩

def toNode (g : Inside) : Node :=
  if g.alternatives.isEmpty then g.sequence
  else
    let nodes := (g.sequence :: g.alternatives).reverse
    { pattern := Shape.choice (nodes.map Node.pattern)
      depth := (nodes.map Node.depth).foldl max 0 + 1
      weight := totalWeight nodes + 32 + 4 * nodes.length }

end Inside

structure Opened where
  before : Inside
  index : Option Nat
  flags : Flags

structure Reading where
  flags : Flags
  groups : Nat := 0
  names : List (Text × Nat) := []
  inside : Inside := {}
  stack : List Opened := []

def depthLimit : Nat := 250

/-- What the machine that matches a pattern takes besides it: 112 bytes to begin anywhere in a text,
64 for the two ends of the match, and 32 to accept. -/
def machineWeight : Nat := 112 + 64 + 32

def weightLimit : Nat := 10 * 1024 * 1024 - machineWeight

namespace Reading

def addNode (s : Reading) (n : Node) : Reading := { s with inside := s.inside.add (.node n) }

def openGroup (s : Reading) (index : Option Nat) (flags : Flags) : Reading :=
  { s with flags, inside := {}, stack := ⟨s.inside, index, s.flags⟩ :: s.stack }

def openCapture (s : Reading) : Reading :=
  { s.openGroup (some (s.groups + 1)) s.flags with groups := s.groups + 1 }

def closeGroup? (s : Reading) : Option Reading :=
  match s.stack with
  | [] => none
  | g :: stack =>
    let n := s.inside.toNode
    let node : Node := match g.index with
      | some i => ⟨.group i n.pattern, n.depth + 1, n.weight + 64⟩
      | none => ⟨n.pattern, n.depth + 1, n.weight⟩
    some { s with flags := g.flags, inside := g.before.add (.node node), stack }

def isNameChar (first : Bool) (c : Char) : Bool :=
  if first then c == '_' || Character.isAlphabetic c
  else c == '_' || c == '.' || c == '[' || c == ']' || Character.isAlphanumeric c

def groupName? (t : Text) : Option (Text × Text) :=
  let name := t.takeWhile (· != '>')
  match name, t.drop name.length with
  | c :: cs, _ :: rest =>
    if isNameChar true c && cs.all (isNameChar false) then some (name, rest) else none
  | _, _ => none

def openNamed? (s : Reading) (t : Text) : Option (Reading × Text) :=
  (groupName? t).bind fun (name, t) =>
    if s.names.any (·.1 == name) then none
    else some ({ s.openCapture with names := (name, s.groups + 1) :: s.names }, t)

/-- Reads flags up to the end of the group or the colon before its contents. No flag and no minus
may come twice, and a flag must follow the minus. -/
def readFlags : Text → List Char → Option Bool → Flags → Option (Bool × Flags × List Char × Text)
  | [], _, _, _ => none
  | c :: t, seen, lastMinus, f =>
    if c = ':' || c = ')' then
      if lastMinus == some true then none else some (c == ':', f, seen, t)
    else if seen.contains c then none
    else if c = '-' then readFlags t (c :: seen) (some true) f
    else (f.switch? c (!seen.contains '-')).bind fun f => readFlags t (c :: seen) (some false) f

def group? (s : Reading) (t : Text) : Option (Reading × Text) :=
  match s.flags.skip t with
  | '?' :: '=' :: _ | '?' :: '!' :: _ | '?' :: '<' :: '=' :: _ | '?' :: '<' :: '!' :: _ => none
  | '?' :: 'P' :: '<' :: t => s.openNamed? t
  | '?' :: '<' :: t => s.openNamed? t
  | '?' :: t =>
    (readFlags t [] none s.flags).bind fun (isGroup, flags, seen, t) =>
      if isGroup then some (s.openGroup none flags, t)
      else if seen.isEmpty then none
      else some ({ s with flags, inside := s.inside.add .flags }, t)
  | t => some (s.openCapture, t)

def repeat? (s : Reading) (least : Nat) (most : Option Nat) (lazy : Bool) : Option Reading :=
  match s.inside.parts with
  | .node n :: parts =>
    let copies := max 1 (most.getD (max least 1))
    let weight := n.weight * copies + 32 * copies
    if weightLimit < weight then none
    else
      let node : Node :=
        ⟨Shape.repeated (lazy == s.flags.swapGreed) n.pattern least most, n.depth + 1, weight⟩
      some { s with inside := { s.inside with parts := .node node :: parts } }
  | _ => none

def digits (f : Flags) : Nat → Text → Text × Text
  | 0, t => ([], t)
  | k + 1, t => match t with
    | [] => ([], [])
    | c :: r =>
      if c.isDigit then
        let (ds, r) := digits f k (f.skip r)
        (c :: ds, r)
      else ([], c :: r)

def count? (f : Flags) (t : Text) : Option Nat × Text :=
  let (ds, t) := digits f (t.length + 1) (t.dropWhile Character.isBlank)
  let t := f.skip (t.dropWhile Character.isBlank)
  let t := t.dropWhile Character.isBlank
  let n := ds.foldl (fun n c => 10 * n + (c.toNat - 48)) 0
  (if ds.isEmpty || Nat.pow 2 32 ≤ n then none else some n, t)

def counted? (s : Reading) (t : Text) : Option (Reading × Text) :=
  match count? s.flags (s.flags.skip t) with
  | (least, ',' :: t) =>
    match s.flags.skip t with
    | '\x7d' :: t => least.bind fun least => close least none t
    | t => match count? s.flags t with
      | (most, '\x7d' :: t) => least.bind fun least => most.bind fun most =>
          if least ≤ most then close least (some most) t else none
      | _ => none
  | (least, '\x7d' :: t) => least.bind fun n => close n (some n) t
  | _ => none
where
  close (least : Nat) (most : Option Nat) (t : Text) : Option (Reading × Text) :=
    match s.flags.skip t with
    | '?' :: t => (s.repeat? least most true).map (·, t)
    | t => (s.repeat? least most false).map (·, t)

def uncounted? (s : Reading) (least : Nat) (most : Option Nat) (t : Text) :
    Option (Reading × Text) :=
  match t with
  | '?' :: t => (s.repeat? least most true).map (·, t)
  | t => (s.repeat? least most false).map (·, t)

def literal (f : Flags) (c : Char) : Node :=
  ⟨.one (f.literal c), 0, (f.sameAs c).foldl (fun weight d => weight + 32 * d.utf8Size) 0⟩

def primitive (f : Flags) : Primitive → Node
  | .literal c => literal f c
  | .set s w => ⟨.one s, 0, w⟩
  | .place l => ⟨.place l, 0, 32⟩

def step? (s : Reading) (c : Char) (t : Text) : Option (Reading × Text) :=
  match c with
  | '(' => s.group? t
  | ')' => s.closeGroup?.map (·, t)
  | '|' => some ({ s with inside := s.inside.nextAlternative }, t)
  | '[' => (Bracket.read? s.flags t).map fun (r, t) =>
    (s.addNode ⟨.one r.set, r.depth, r.weight⟩, t)
  | '?' => s.uncounted? 0 (some 1) t
  | '*' => s.uncounted? 0 none t
  | '+' => s.uncounted? 1 none t
  | '\x7b' => s.counted? t
  | '\\' => (Escape.read? s.flags t).map fun (p, t) => (s.addNode (primitive s.flags p), t)
  | '.' => s.flags.dot?.map fun d => (s.addNode ⟨.one d, 0, 600⟩, t)
  | '^' => some (s.addNode ⟨.place s.flags.caretPlace, 0, 32⟩, t)
  | '$' => some (s.addNode ⟨.place s.flags.dollarPlace, 0, 32⟩, t)
  | c => some (s.addNode (literal s.flags c), t)

def run? : Nat → Reading → Text → Option Reading
  | 0, _, _ => none
  | n + 1, s, t => match s.flags.skip t with
    | [] => some s
    | c :: t => (s.step? c t).bind fun (s, t) => run? n s t

end Reading

structure Expression where
  pattern : Pattern
  names : List (Text × Nat)

def read? (flags : Flags) (t : Text) : Option Expression :=
  (Reading.run? (t.length + 1) { flags } t).bind fun s =>
    let n := s.inside.toNode
    if s.stack.isEmpty && n.depth ≤ depthLimit && n.weight ≤
      weightLimit then some ⟨n.pattern, s.names⟩
    else none

end Dictation.Pattern
