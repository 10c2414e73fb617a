
namespace Dictation.Pattern

structure Positions where
  bits : Nat
  deriving DecidableEq, Repr

namespace Positions

def mem (s : Positions) (i : Nat) : Bool := s.bits.testBit i

def ofFlags (flags : List Bool) : Positions := ⟨flags.foldr (fun b n => 2 * n + b.toNat) 0⟩

def all (n : Nat) : Positions := ⟨Nat.pow 2 (n + 1) - 1⟩

def inter (s t : Positions) : Positions := ⟨s.bits &&& t.bits⟩

def union (s t : Positions) : Positions := ⟨s.bits ||| t.bits⟩

def before (s : Positions) : Positions := ⟨s.bits >>> 1⟩

@[simp] theorem mem_inter (s t : Positions) (i : Nat) :
    (s.inter t).mem i = (s.mem i && t.mem i) := by
  simp [mem, inter]

@[simp] theorem mem_union (s t : Positions) (i : Nat) :
    (s.union t).mem i = (s.mem i || t.mem i) := by
  simp [mem, union]

@[simp] theorem mem_before (s : Positions) (i : Nat) : s.before.mem i = s.mem (i + 1) := by
  simp [mem, before, Nat.testBit_shiftRight, Nat.add_comm]

@[simp] theorem mem_all (n i : Nat) : (all n).mem i = decide (i ≤ n) := by
  simp only [mem, all, Nat.pow_eq, Nat.testBit_two_pow_sub_one, Nat.lt_add_one_iff]

@[simp] theorem mem_ofFlags (flags : List Bool) (i : Nat) :
    (ofFlags flags).mem i = flags[i]?.getD false := by
  induction flags generalizing i with
  | nil => simp [mem, ofFlags]
  | cons b flags ih =>
    have hb : (ofFlags (b :: flags)).bits = 2 * (ofFlags flags).bits + b.toNat := rfl
    cases i with
    | zero => cases b <;> simp [mem, hb, Nat.testBit_zero, Nat.add_mod]
    | succ i =>
      have hd : (2 * (ofFlags flags).bits + b.toNat) / 2 = (ofFlags flags).bits := by
        cases b <;> simp only [Bool.toNat_false, Bool.toNat_true] <;> omega
      simpa [mem, hb, Nat.testBit_succ, hd] using ih i

def leastFrom (s : Positions) : Nat → Nat → Option Nat
  | 0, _ => none
  | n + 1, i => if s.mem i then some i else leastFrom s n (i + 1)

end Positions

end Dictation.Pattern
