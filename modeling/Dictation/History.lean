import Dictation.Text.Basic

namespace Dictation

structure History where
  entries : List Text
  /-- The position of the current snapshot; none while there are no snapshots. -/
  index : Option Nat
  capacity : Nat
  deriving DecidableEq, Repr

namespace History

def defaultCapacity : Nat := 30

/-- The most snapshots that room can be set aside for. Each takes 24 bytes, and together they take
no more than `0x7fffffffffffffff`. -/
def maxCapacity : Nat := 0x7fffffffffffffff / 24

def empty (room : Nat) : History := ⟨[], none, room⟩

/-- A new history with room for at least one snapshot; none when there cannot be so much room. -/
def ofCapacity? (capacity : Nat) : Option History :=
  let room := max capacity 1
  if room ≤ maxCapacity then some (empty room) else none

def current? (h : History) : Option Text := h.index.bind (h.entries[·]?)

def canUndo (h : History) : Bool := h.index.any (0 < ·)

def canRedo (h : History) : Bool := h.index.any (· + 1 < h.entries.length)

def kept (h : History) : List Text :=
  match h.index with
  | some i => h.entries.take (i + 1)
  | none => h.entries

/-- The history with a snapshot added after the current one; nothing when it is the current one. -/
def push? (h : History) (snapshot : Text) : Option History :=
  if h.current? = some snapshot then none
  else
    let entries := h.kept ++ [snapshot]
    if h.capacity < entries.length then some { h with entries := entries.drop 1 }
    else some { h with entries, index := some (h.index.elim 0 (· + 1)) }

def push (h : History) (snapshot : Text) : History := (h.push? snapshot).getD h

def undo? (h : History) : Option History :=
  match h.index with
  | some (i + 1) => some { h with index := some i }
  | _ => none

def redo? (h : History) : Option History :=
  match h.index with
  | some i => if i + 1 < h.entries.length then some { h with index := some (i + 1) } else none
  | none => none

end History

end Dictation
