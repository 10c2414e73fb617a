
namespace Dictation

abbrev Text := List Char

namespace Text

def size : Text → Nat
  | [] => 0
  | c :: t => c.utf8Size + size t

/-- The characters that end at or before an offset. -/
def upTo : Text → Nat → Text
  | [], _ => []
  | c :: t, i => if c.utf8Size ≤ i then c :: upTo t (i - c.utf8Size) else []

def beyond : Text → Nat → Text
  | [], _ => []
  | c :: t, i => if c.utf8Size ≤ i then beyond t (i - c.utf8Size) else c :: t

def bytes (t : Text) : List UInt8 := t.flatMap String.utf8EncodeChar

/-- Whether a byte is the first of a character. Those that come after it in a character lie from
`80` to `BF`. -/
def beginsCharacter (b : UInt8) : Bool := b < 0x80 || 0xC0 ≤ b

def atBoundary (t : Text) (i : Nat) : Bool :=
  i == 0 || match t.bytes[i]? with
    | some b => beginsCharacter b
    | none => i == t.size

/-- Steps down from an offset until it is at a boundary. There is none to come to if that would lead
below zero. -/
def descend? (t : Text) (i : Nat) : Option Nat :=
  if t.atBoundary i then some i
  else match i with
    | 0 => none
    | j + 1 => descend? t j

theorem isSome_descend? (t : Text) (i : Nat) : (t.descend? i).isSome := by
  induction i with
  | zero => rfl
  | succ i ih =>
    rw [descend?]
    split
    · rfl
    · exact ih

/-- The greatest boundary that is at most `i`; the end of the text when `i` lies past it. -/
def floor (t : Text) (i : Nat) : Nat :=
  if t.size ≤ i then t.size else (t.descend? i).get (t.isSome_descend? i)

def slice (t : Text) (i j : Nat) : Text := upTo (beyond t (floor t i)) (j - floor t i)

/-- An offset between two characters, or at an end. -/
def IsBoundary (t : Text) (i : Nat) : Prop := ∃ before after, t = before ++ after ∧ size before = i

@[simp] theorem size_nil : size [] = 0 := rfl

@[simp] theorem size_cons (c : Char) (t : Text) : size (c :: t) = c.utf8Size + size t := rfl

@[simp] theorem size_append (s t : Text) : size (s ++ t) = size s + size t := by
  induction s with
  | nil => simp
  | cons c s ih => simp [ih, Nat.add_assoc]

@[simp] theorem upTo_append_beyond (t : Text) (i : Nat) : upTo t i ++ beyond t i = t := by
  induction t generalizing i with
  | nil => rfl
  | cons c t ih => by_cases h : c.utf8Size ≤ i <;> simp [upTo, beyond, h, ih]

@[simp] theorem upTo_size (s t : Text) : upTo (s ++ t) (size s) = s := by
  induction s with
  | nil => cases t with
    | nil => rfl
    | cons c t => simp [upTo, Nat.not_le.2 c.utf8Size_pos]
  | cons c s ih => simp [upTo, ih]

@[simp] theorem beyond_size (s t : Text) : beyond (s ++ t) (size s) = t := by
  have h := upTo_append_beyond (s ++ t) (size s)
  rw [upTo_size] at h
  exact List.append_cancel_left h

end Text

end Dictation
