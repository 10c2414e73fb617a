import Dictation.Text.Decimal
import Dictation.Pattern.Search

namespace Dictation.Replacement

inductive Piece where
  | plain (c : Char)
  | group (index : Nat)
  | named (name : Text)
  deriving DecidableEq, Repr

namespace Piece

/-- A group by the name it is given between braces: a number is an index. -/
def ofName (name : Text) : Piece :=
  match Text.signedNat? (Nat.pow 2 64) name with
  | some i => group i
  | none => named name

def toText : Piece → Text
  | plain c => if c = '$' then ['$', '$'] else [c]
  | group i => ['$', '\x7b'] ++ Text.ofNat i ++ ['\x7d']
  | named name => ['$', '\x7b'] ++ name ++ ['\x7d']

/-- The text of a piece at a match; a group that is absent or took no part is empty. -/
def expand (names : List (Text × Nat)) (t : Text) (m : Pattern.Match) : Piece → Text
  | plain c => [c]
  | group i => (m.group? t i).getD []
  | named name => (((names.lookup name).bind (m.group? t))).getD []

end Piece

def write (ps : List Piece) : Text := ps.flatMap Piece.toText

def isNameChar (c : Char) : Bool := c.isAlphanum || c == '_'

def name? (t : Text) : Option (Text × Text) :=
  match t with
  | '\x7b' :: t =>
    let name := t.takeWhile (· != '\x7d')
    if name.length < t.length then some (name, t.drop (name.length + 1)) else none
  | t =>
    let name := t.takeWhile isNameChar
    if name.isEmpty then none else some (name, t.drop name.length)

theorem length_of_name? {t name rest : Text} (h : name? t = some (name, rest)) :
    rest.length < t.length := by
  unfold name? at h
  split at h
  · simp only [Option.ite_none_right_eq_some, Option.some.injEq, Prod.mk.injEq] at h
    obtain ⟨hl, rfl, rfl⟩ := h
    simp only [List.length_drop, List.length_cons]
    omega
  · simp only [Option.ite_none_left_eq_some, Option.some.injEq, Prod.mk.injEq] at h
    obtain ⟨hn, rfl, rfl⟩ := h
    have hp := List.length_pos_iff.2 (mt List.isEmpty_iff.2 hn)
    have hle := (List.takeWhile_prefix isNameChar (l := t)).length_le
    rw [List.length_drop]
    omega

def read : Text → List Piece
  | [] => []
  | '$' :: '$' :: t => .plain '$' :: read t
  | c :: t =>
    if c = '$' then
      match h : name? t with
      | some (name, rest) =>
        have := length_of_name? h
        .ofName name :: read rest
      | none => .plain c :: read t
    else .plain c :: read t
termination_by t => t.length

end Dictation.Replacement
