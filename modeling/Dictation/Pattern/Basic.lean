import Dictation.Text.Lines
import Dictation.Character.Letter

namespace Dictation.Pattern

/-- The shape of a pattern, over sets of characters `σ` and conditions on places `π`. A repetition
that is greedy prefers to go on, one that is not prefers to stop. -/
inductive Shape (σ π : Type) where
  | empty
  | one (set : σ)
  | place (condition : π)
  | seq (p q : Shape σ π)
  | alt (p q : Shape σ π)
  | opt (greedy : Bool) (p : Shape σ π)
  | star (greedy : Bool) (p : Shape σ π)
  | plus (greedy : Bool) (p : Shape σ π)
  | group (index : Nat) (p : Shape σ π)

abbrev CharSet := Char → Bool

/-- Conditions on the place between two characters, either of which may be missing. Words are made
of ASCII letters, digits and underscores where `ascii` is set. -/
inductive Place where
  | textStart
  | textEnd
  | lineStart
  | lineEnd
  | returnLineStart
  | returnLineEnd
  | wordEdge (ascii : Bool)
  | notWordEdge (ascii : Bool)
  | wordStart (ascii : Bool)
  | wordEnd (ascii : Bool)
  | noWordBefore (ascii : Bool)
  | noWordAfter (ascii : Bool)
  deriving DecidableEq, Repr

namespace Place

def word (ascii : Bool) (side : Option Char) : Bool :=
  side.any fun c => if ascii then c.isAlphanum || c == '_' else Character.isWord c

def holds (l : Place) (before after : Option Char) : Bool :=
  match l with
  | textStart => before.isNone
  | textEnd => after.isNone
  | lineStart => before.isNone || before == some '\n'
  | lineEnd => after.isNone || after == some '\n'
  | returnLineStart =>
    before.isNone || before == some '\n' || (before == some '\r' && after != some '\n')
  | returnLineEnd =>
    after.isNone || after == some '\r' || (after == some '\n' && before != some '\r')
  | wordEdge ascii => word ascii before != word ascii after
  | notWordEdge ascii => word ascii before == word ascii after
  | wordStart ascii => !word ascii before && word ascii after
  | wordEnd ascii => word ascii before && !word ascii after
  | noWordBefore ascii => !word ascii before
  | noWordAfter ascii => !word ascii after

end Place

namespace Shape

variable {σ π σ' π' : Type}

def map (f : σ → σ') (g : π → π') : Shape σ π → Shape σ' π'
  | empty => empty
  | one s => one (f s)
  | place l => place (g l)
  | seq p q => seq (p.map f g) (q.map f g)
  | alt p q => alt (p.map f g) (q.map f g)
  | opt greedy p => opt greedy (p.map f g)
  | star greedy p => star greedy (p.map f g)
  | plus greedy p => plus greedy (p.map f g)
  | group i p => group i (p.map f g)

def nullable : Shape σ π → Bool
  | empty => true
  | one _ => false
  | place _ => true
  | seq p q => p.nullable && q.nullable
  | alt p q => p.nullable || q.nullable
  | opt _ _ => true
  | star _ _ => true
  | plus _ p => p.nullable
  | group _ p => p.nullable

def groups : Shape σ π → Nat
  | empty => 0
  | one _ => 0
  | place _ => 0
  | seq p q => max p.groups q.groups
  | alt p q => max p.groups q.groups
  | opt _ p => p.groups
  | star _ p => p.groups
  | plus _ p => p.groups
  | group i p => max i p.groups

def sequence : List (Shape σ π) → Shape σ π
  | [] => empty
  | [p] => p
  | p :: ps => seq p (sequence ps)

def choice : List (Shape σ π) → Shape σ π
  | [] => empty
  | [p] => p
  | p :: ps => alt p (choice ps)

def times (p : Shape σ π) (n : Nat) : Shape σ π := sequence (List.replicate n p)

def upTo (greedy : Bool) (p : Shape σ π) : Nat → Shape σ π
  | 0 => empty
  | 1 => opt greedy p
  | n + 1 => opt greedy (seq p (upTo greedy p n))

def repeated (greedy : Bool) (p : Shape σ π) (least : Nat) (most : Option Nat) : Shape σ π :=
  match least, most with
  | 0, none => star greedy p
  | least + 1, none => if least = 0 then plus greedy p else seq (times p least) (plus greedy p)
  | least, some most =>
    if most ≤ least then times p least
    else if least = 0 then upTo greedy p most
    else seq (times p least) (upTo greedy p (most - least))

end Shape

end Dictation.Pattern

abbrev Dictation.Pattern :=
  Dictation.Pattern.Shape Dictation.Pattern.CharSet Dictation.Pattern.Place
