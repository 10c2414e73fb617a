import Dictation.Proofs.History.Sound

namespace Dictation.History

inductive Move where
  | push (snapshot : Text)
  | undo
  | redo
  deriving DecidableEq, Repr

inductive Answer where
  | pushed (added : Bool)
  | moved (current : Option Text)
  deriving DecidableEq, Repr

def move (h : History) : Move → History × Answer
  | .push t => (h.push t, .pushed (h.push? t).isSome)
  | .undo => (h.undo?.getD h, .moved (h.undo?.bind current?))
  | .redo => (h.redo?.getD h, .moved (h.redo?.bind current?))

namespace Zipper

def move (room : Nat) : Option Zipper → Move → Option Zipper × Answer
  | none, .push t => (some ⟨[], t, []⟩, .pushed true)
  | none, _ => (none, .moved none)
  | some z, .push t => (z.push room t, .pushed (z.push? room t).isSome)
  | some z, .undo => (z.undo?.getD z, .moved (z.undo?.map current))
  | some z, .redo => (z.redo?.getD z, .moved (z.redo?.map current))

end Zipper

variable {σ : Type}

def run (step : σ → Move → σ × Answer) : σ → List Move → σ × List Answer
  | s, [] => (s, [])
  | s, m :: ms => ((run step (step s m).1 ms).1, (step s m).2 :: (run step (step s m).1 ms).2)

theorem run_append_fst (step : σ → Move → σ × Answer) (s : σ) (ms ns : List Move) :
    (run step s (ms ++ ns)).1 = (run step (run step s ms).1 ns).1 := by
  induction ms generalizing s with
  | nil => rfl
  | cons m ms ih => exact ih (step s m).1

/-- The history that a zipper stands for, empty when there is none. -/
def ofZipper (capacity : Nat) : Option Zipper → History
  | none => ⟨[], none, capacity⟩
  | some z => z.toHistory capacity

def Fits (capacity : Nat) (z : Option Zipper) : Prop := ∀ y ∈ z, y.entries.length ≤ capacity

@[simp] theorem fits_none (capacity : Nat) : Fits capacity none := by simp [Fits]

@[simp] theorem fits_some {capacity : Nat} {z : Zipper} :
    Fits capacity (some z) ↔ z.entries.length ≤ capacity := by simp [Fits]

section Step

variable {capacity : Nat} (hc : 0 < capacity)

include hc

theorem fits_move {z : Option Zipper} (hz : Fits capacity z) (m : Move) :
    Fits capacity (Zipper.move capacity z m).1 := by
  cases z with
  | none =>
    cases m with
    | push t => simpa [Zipper.move] using Nat.succ_le_of_lt hc
    | undo | redo => exact hz
  | some z =>
    rw [fits_some] at hz
    cases m with
    | push t =>
      rw [Zipper.move, fits_some]
      exact Zipper.length_push hc hz t
    | undo =>
      rw [Zipper.move, fits_some]
      cases hu : z.undo? with
      | none => exact hz
      | some z' => exact Zipper.entries_of_undo? hu ▸ hz
    | redo =>
      rw [Zipper.move, fits_some]
      cases hr : z.redo? with
      | none => exact hz
      | some z' => exact Zipper.entries_of_redo? hr ▸ hz

theorem move_ofZipper {z : Option Zipper} (hz : Fits capacity z) (m : Move) :
    (ofZipper capacity z).move m =
      (ofZipper capacity (Zipper.move capacity z m).1, (Zipper.move capacity z m).2) := by
  cases z with
  | none =>
    cases m with
    | push t =>
      have hp : push? ⟨[], none, capacity⟩ t = some ⟨[t], some 0, capacity⟩ := by
        simp [push?, current?, kept, Nat.not_lt.2 hc]
      simp [ofZipper, move, Zipper.move, push, hp, Zipper.toHistory, Zipper.entries]
    | undo | redo => rfl
  | some z =>
    rw [fits_some] at hz
    cases m with
    | push t =>
      have hp := Zipper.push?_toHistory z capacity (Zipper.length_past_lt hz) t
      have hp' := Zipper.push_toHistory z capacity (Zipper.length_past_lt hz) t
      simp [ofZipper, move, Zipper.move, hp, hp']
    | undo =>
      have hu := Zipper.undo?_toHistory z capacity
      cases hy : z.undo? <;> simp [ofZipper, move, Zipper.move, hu, hy]
    | redo =>
      have hr := Zipper.redo?_toHistory z capacity
      cases hy : z.redo? <;> simp [ofZipper, move, Zipper.move, hr, hy]

theorem run_ofZipper {z : Option Zipper} (hz : Fits capacity z) (ms : List Move) :
    run move (ofZipper capacity z) ms =
      (ofZipper capacity (run (Zipper.move capacity) z ms).1,
        (run (Zipper.move capacity) z ms).2) := by
  induction ms generalizing z with
  | nil => rfl
  | cons m ms ih =>
    have hm := ih (fits_move hc hz m)
    simp only [run, move_ofZipper hc hz m, hm]

end Step

theorem run_empty {room : Nat} (hroom : 0 < room) (ms : List Move) :
    run move (empty room) ms =
      (ofZipper room (run (Zipper.move room) none ms).1, (run (Zipper.move room) none ms).2) :=
  run_ofZipper hroom (fits_none _) ms

theorem rtake_rtake_concat (n : Nat) (ts : List Text) (t : Text) :
    (ts.rtake n ++ [t]).rtake n = (ts ++ [t]).rtake n := by
  cases n with
  | zero => simp
  | succ n =>
    rw [List.rtake_concat_succ, List.rtake_concat_succ]
    simp [List.rtake_eq_reverse_take_reverse, List.take_take]

/-- Pushes with no two equal neighbours leave the last snapshot with those before it, as far as
there is room. -/
theorem run_pushes (room : Nat) {ts : List Text} {t : Text} (h : (ts ++ [t]).IsChain (· ≠ ·)) :
    (run (Zipper.move room) none ((ts ++ [t]).map .push)).1 =
      some ⟨ts.rtake (room - 1), t, []⟩ := by
  induction ts using List.reverseRecOn generalizing t with
  | nil => simp [run, Zipper.move]
  | append_singleton ts u ih =>
    have hu := ih (h.left_of_append)
    have hne : t ≠ u := by
      rw [List.append_assoc, List.isChain_append] at h
      exact (List.isChain_pair.1 h.2.1).symm
    rw [List.map_append, run_append_fst, hu]
    simp [run, Zipper.move, Zipper.push, Zipper.push?, hne, rtake_rtake_concat]

theorem entries_of_pushes {room : Nat} (hroom : 0 < room) {ts : List Text}
    (h : ts.IsChain (· ≠ ·)) :
    (run move (empty room) (ts.map .push)).1.entries = ts.rtake (min ts.length room) := by
  rw [run_empty hroom]
  obtain ⟨room, rfl⟩ := Nat.exists_eq_add_one_of_ne_zero hroom.ne'
  have hmin : ts.rtake (min ts.length (room + 1)) = ts.rtake (room + 1) := by
    rw [List.rtake, List.rtake]
    congr 1
    omega
  rw [hmin]
  cases ts using List.reverseRecOn with
  | nil => rw [List.rtake_nil]; rfl
  | append_singleton ts t =>
    rw [run_pushes _ h, List.rtake_concat_succ]
    rfl

theorem bind_none_iterate (f : History → Option History) (n : Nat) :
    (fun h : Option History => h.bind f)^[n] none = none := by
  induction n with
  | zero => rfl
  | succ n ih => simpa only [Function.iterate_succ_apply, Option.bind_none] using ih

/-- As many redos as there were undos lead back. -/
theorem redos_of_undos (capacity n : Nat) (z : Option Zipper) {h : History}
    (hu : (fun h : Option History => h.bind undo?)^[n] (some (ofZipper capacity z)) = some h) :
    (fun h : Option History => h.bind redo?)^[n] (some h) = some (ofZipper capacity z) := by
  induction n generalizing z with
  | zero => exact hu.symm
  | succ n ih =>
    rw [Function.iterate_succ_apply, Option.bind_some] at hu
    cases z with
    | none =>
      rw [show (ofZipper capacity none).undo? = none from rfl, bind_none_iterate] at hu
      cases hu
    | some z =>
      rw [ofZipper, Zipper.undo?_toHistory] at hu
      cases hz : z.undo? with
      | none =>
        rw [hz, Option.map_none, bind_none_iterate] at hu
        cases hu
      | some z' =>
        rw [hz, Option.map_some] at hu
        rw [Function.iterate_succ_apply', ih (some z') hu, Option.bind_some, ofZipper,
          Zipper.redo?_toHistory, Zipper.redo?_of_undo? hz]
        rfl

section Refinement

variable {room : Nat} (hroom : 0 < room)

include hroom

theorem agrees_run_empty (ms : List Move) :
    let h := run move (empty room) ms
    let z := run (Zipper.move room) none ms
    h.2 = z.2 ∧ h.1.entries = z.1.elim [] Zipper.entries ∧ h.1.index = z.1.map (·.past.length) ∧
      h.1.current? = z.1.map Zipper.current ∧ h.1.canUndo = z.1.any (!·.past.isEmpty) ∧
      h.1.canRedo = z.1.any (!·.future.isEmpty) := by
  rw [run_empty hroom]
  refine ⟨rfl, ?_⟩
  cases (run (Zipper.move room) none ms).1 with
  | none => exact ⟨rfl, rfl, rfl, rfl, rfl⟩
  | some z => exact ⟨rfl, rfl, by simp [ofZipper], by simp [ofZipper], by simp [ofZipper]⟩

theorem redos_run_empty {ms : List Move} {n : Nat} {h : History}
    (hu : (fun h : Option History => h.bind undo?)^[n] (some (run move (empty room) ms).1) =
      some h) :
    (fun h : Option History => h.bind redo?)^[n] (some h) = some (run move (empty room) ms).1 := by
  rw [run_empty hroom] at hu ⊢
  exact redos_of_undos _ n _ hu

end Refinement

/-- A history is a zipper with bounded room: whatever the moves, it gives the answers of the zipper
and holds its snapshots in the same order and position. So a new history keeps the latest snapshots
pushed onto it, and redos take back undos. There is a new history of every capacity that room can be
set aside for, and of no other. -/
theorem refines_zipper (capacity : Nat) :
    (maxCapacity < capacity → ofCapacity? capacity = none) ∧
    (capacity ≤ maxCapacity → ∃ new, ofCapacity? capacity = some new ∧
      (∀ ms : List Move,
        let h := run move new ms
        let z := run (Zipper.move (max capacity 1)) none ms
        h.2 = z.2 ∧ h.1.entries = z.1.elim [] Zipper.entries ∧
          h.1.index = z.1.map (·.past.length) ∧ h.1.current? = z.1.map Zipper.current ∧
          h.1.canUndo = z.1.any (!·.past.isEmpty) ∧ h.1.canRedo = z.1.any (!·.future.isEmpty)) ∧
      (∀ ts : List Text, ts.IsChain (· ≠ ·) →
        (run move new (ts.map .push)).1.entries = ts.rtake (min ts.length (max capacity 1))) ∧
      ∀ (ms : List Move) (n : Nat) (h : History),
        (fun h : Option History => h.bind undo?)^[n] (some (run move new ms).1) = some h →
          (fun h : Option History => h.bind redo?)^[n] (some h) = some (run move new ms).1) := by
  have hroom : 0 < max capacity 1 := Nat.le_max_right capacity 1
  refine ⟨ofCapacity?_eq_none_iff.2, fun hle => ⟨_, ofCapacity?_of_le hle, ?_, ?_, ?_⟩⟩
  · exact agrees_run_empty hroom
  · exact fun ts => entries_of_pushes hroom
  · exact fun ms n h => redos_run_empty hroom

theorem refines_zipper_at_two :
    List.IsChain (· ≠ ·) [['a'], ['b'], ['c']] ∧ 2 ≤ maxCapacity ∧
    maxCapacity < 384307168202282326 ∧ ofCapacity? 384307168202282326 = none ∧
    ∃ new, ofCapacity? 2 = some new ∧
      (run move new ([['a'], ['b'], ['c']].map .push)).1.entries = [['b'], ['c']] ∧
      (fun h : Option History => h.bind undo?)^[1]
        (some (run move new ([['a'], ['b'], ['c']].map .push)).1) =
          some ⟨[['b'], ['c']], some 0, 2⟩ ∧
      (fun h : Option History => h.bind redo?)^[1] (some ⟨[['b'], ['c']], some 0, 2⟩) =
        some (run move new ([['a'], ['b'], ['c']].map .push)).1 := by
  have hchain : List.IsChain (· ≠ ·) [['a'], ['b'], ['c']] := by simp
  have htwo : 2 ≤ maxCapacity := by decide
  have hbeyond : maxCapacity < 384307168202282326 := by decide
  obtain ⟨new, hnew, -, hpushes, hredos⟩ := (refines_zipper 2).2 htwo
  have hundo : (fun h : Option History => h.bind undo?)^[1]
      (some (run move new ([['a'], ['b'], ['c']].map .push)).1) =
        some ⟨[['b'], ['c']], some 0, 2⟩ := by
    obtain ⟨-, rfl⟩ := ofCapacity?_eq_some_iff.1 hnew
    decide
  exact ⟨hchain, htwo, hbeyond, (refines_zipper _).1 hbeyond, new, hnew,
    hpushes _ hchain, hundo, hredos _ 1 _ hundo⟩

/-- There is no history with room for 384307168202282326 snapshots, while a zipper takes a push
whatever its room. -/
theorem not_refines_zipper_beyond :
    ofCapacity? 384307168202282326 = none ∧
      ¬∃ new, ofCapacity? 384307168202282326 = some new ∧
        (run move new [.push ['a']]).2 =
          (run (Zipper.move 384307168202282326) none [.push ['a']]).2 := by
  have hnone : ofCapacity? 384307168202282326 = none := ofCapacity?_eq_none_iff.2 (by decide)
  refine ⟨hnone, ?_⟩
  rintro ⟨new, hnew, -⟩
  rw [hnone] at hnew
  cases hnew

end Dictation.History
