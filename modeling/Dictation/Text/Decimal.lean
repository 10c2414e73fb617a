import Dictation.Text.Basic

namespace Dictation.Text

def ofNat (n : Nat) : Text := (Nat.repr n).toList

def digitsValue (t : Text) : Nat := t.foldl (fun n c => 10 * n + (c.toNat - 48)) 0

theorem isDigit_of_mem_ofNat {n : Nat} {c : Char} (h : c ∈ ofNat n) : c.isDigit = true := by
  rw [ofNat, Nat.toList_repr] at h
  exact Nat.isDigit_of_mem_toDigits (by decide) (by decide) h

@[simp] theorem digitsValue_ofNat (n : Nat) : digitsValue (ofNat n) = n := by
  rw [ofNat, Nat.toList_repr]
  exact Nat.ofDigitChars_toDigits (by decide) (by decide)

def toNat? (limit : Nat) (t : Text) : Option Nat :=
  if !t.isEmpty && t.all Char.isDigit && digitsValue t < limit then some (digitsValue t) else none

def signedNat? (limit : Nat) : Text → Option Nat
  | '+' :: t => toNat? limit t
  | t => toNat? limit t

theorem ofNat_ne_nil (n : Nat) : ofNat n ≠ [] := by
  rw [ofNat, Nat.toList_repr]
  exact Nat.toDigits_ne_nil

theorem toNat?_eq_some_iff {limit n : Nat} {t : Text} :
    toNat? limit t = some n ↔ t ≠ [] ∧ (∀ c ∈ t, c.isDigit = true) ∧ digitsValue t = n ∧
      n < limit := by
  rw [toNat?, Option.ite_none_right_eq_some, Bool.and_eq_true, Bool.and_eq_true, List.all_eq_true,
    decide_eq_true_iff, Bool.not_eq_true', List.isEmpty_eq_false_iff, Option.some.injEq]
  constructor
  · rintro ⟨⟨⟨hne, hall⟩, hlt⟩, rfl⟩
    exact ⟨hne, hall, rfl, hlt⟩
  · rintro ⟨hne, hall, rfl, hlt⟩
    exact ⟨⟨⟨hne, hall⟩, hlt⟩, rfl⟩

theorem toNat?_ofNat {limit n : Nat} (h : n < limit) : toNat? limit (ofNat n) = some n :=
  toNat?_eq_some_iff.2 ⟨ofNat_ne_nil n, fun _ => isDigit_of_mem_ofNat, digitsValue_ofNat n, h⟩

def padLeft (width : Nat) (t : Text) : Text := List.replicate (width - t.length) ' ' ++ t

def padRight (width : Nat) (t : Text) : Text := t ++ List.replicate (width - t.length) ' '

end Dictation.Text
