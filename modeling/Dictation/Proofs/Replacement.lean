import Dictation.Replacement
import Mathlib.Data.List.TakeWhile

namespace Dictation

namespace Text

variable {c : Char} {t name rest : Text}

theorem takeWhile_ne_append (h : c ∉ name) (rest : Text) :
    (name ++ c :: rest).takeWhile (· != c) = name := by
  have hall : ∀ d ∈ name, (d != c) = true := fun d hd => bne_iff_ne.2 fun heq => h (heq ▸ hd)
  rw [List.takeWhile_append_of_pos hall, List.takeWhile_cons_of_neg (by simp), List.append_nil]

theorem split_at_iff :
    (t.takeWhile (· != c)).length < t.length ∧ t.takeWhile (· != c) = name ∧
      t.drop (name.length + 1) = rest ↔ c ∉ name ∧ t = name ++ c :: rest := by
  constructor
  · rintro ⟨hlt, hname, hrest⟩
    have hc : c ∈ t := by
      by_contra hc
      have hself : t.takeWhile (· != c) = t :=
        List.takeWhile_eq_self_iff.2 fun d hd => bne_iff_ne.2 fun heq => hc (heq ▸ hd)
      rw [hself] at hlt
      exact Nat.lt_irrefl _ hlt
    obtain ⟨s, r, rfl, hs⟩ := List.eq_append_cons_of_mem hc
    rw [takeWhile_ne_append hs] at hname
    subst hname
    exact ⟨hs, by simp [← hrest]⟩
  · rintro ⟨hc, rfl⟩
    rw [takeWhile_ne_append hc]
    simp

end Text

namespace Replacement

def IsPlainName (name : Text) : Prop := '\x7d' ∉ name ∧ Text.signedNat? (Nat.pow 2 64) name = none

/-- Pieces that can be written so that they are read back. -/
def Piece.Writable : Piece → Prop
  | .plain _ => True
  | .group i => i < Nat.pow 2 64
  | .named name => IsPlainName name

theorem name?_braced {name : Text} (h : '\x7d' ∉ name) (rest : Text) :
    name? ('\x7b' :: (name ++ '\x7d' :: rest)) = some (name, rest) := by
  simp [name?, Text.takeWhile_ne_append h]

theorem read_dollar_dollar (t : Text) : read ('$' :: '$' :: t) = .plain '$' :: read t := by
  rw [read]

theorem read_cons_of_ne {c : Char} (h : c ≠ '$') (t : Text) :
    read (c :: t) = .plain c :: read t := by
  rw [read, if_neg h]
  rintro _ rfl
  exact absurd rfl h

theorem read_braced {name : Text} (h : '\x7d' ∉ name) (t : Text) :
    read ('$' :: '\x7b' :: (name ++ '\x7d' :: t)) = .ofName name :: read t := by
  rw [read, if_pos rfl]
  · split
    · next name' rest hname =>
      rw [name?_braced h, Option.some_inj] at hname
      cases hname
      rfl
    · next hname =>
      rw [name?_braced h] at hname
      cases hname
  · simp

theorem not_mem_ofNat (i : Nat) : '\x7d' ∉ Text.ofNat i := by
  intro h
  have hdigit := Text.isDigit_of_mem_ofNat h
  revert hdigit
  decide

theorem ofName_ofNat {i : Nat} (h : i < Nat.pow 2 64) : Piece.ofName (Text.ofNat i) = .group i := by
  have hnumber : Text.signedNat? (Nat.pow 2 64) (Text.ofNat i) = some i := by
    rw [← Text.toNat?_ofNat h, Text.signedNat?]
    rintro t ht
    have hdigit := Text.isDigit_of_mem_ofNat (ht ▸ List.mem_cons_self)
    revert hdigit
    decide
  rw [Piece.ofName, hnumber]

theorem read_toText_append {p : Piece} (hp : p.Writable) (t : Text) :
    read (p.toText ++ t) = p :: read t := by
  cases p with
  | plain c =>
    by_cases hc : c = '$'
    · subst hc
      exact read_dollar_dollar t
    · rw [Piece.toText, if_neg hc]
      exact read_cons_of_ne hc t
  | group i =>
    have hread := read_braced (not_mem_ofNat i) t
    rw [ofName_ofNat hp] at hread
    simpa [Piece.toText] using hread
  | named name =>
    have hread := read_braced hp.1 t
    rw [Piece.ofName, hp.2] at hread
    simpa [Piece.toText] using hread

/-- Written pieces are read back. -/
theorem read_write {ps : List Piece} (hps : ∀ p ∈ ps, p.Writable) : read (write ps) = ps := by
  induction ps with
  | nil => rw [write, List.flatMap_nil, read]
  | cons p ps ih =>
    obtain ⟨hp, hps⟩ := List.forall_mem_cons.1 hps
    rw [write, List.flatMap_cons, read_toText_append hp]
    exact congrArg (p :: ·) (ih hps)

end Replacement

end Dictation
