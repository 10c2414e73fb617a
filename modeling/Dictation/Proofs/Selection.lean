import Dictation.Document
import Dictation.Proofs.Text.Boundary
import Mathlib.Order.MinMax

namespace Dictation

namespace Selection

theorem between_of_le {i j : Nat} (h : i ≤ j) : between i j = ⟨i, j⟩ := if_pos h

theorem between_eq (i j : Nat) : between i j = ⟨min i j, max i j⟩ := by
  by_cases h : i ≤ j
  · rw [between_of_le h, Nat.min_eq_left h, Nat.max_eq_right h]
  · have h' := Nat.le_of_not_le h
    rw [between, if_neg h, Nat.min_eq_right h', Nat.max_eq_left h']

theorem valid_between {t : Text} {i j : Nat} (hi : t.IsBoundary i) (hj : t.IsBoundary j) :
    (between i j).Valid t := by
  by_cases h : i ≤ j
  · rw [between_of_le h]
    exact ⟨h, hi, hj⟩
  · rw [between, if_neg h]
    exact ⟨Nat.le_of_not_le h, hj, hi⟩

theorem valid_clampTo (s : Selection) (t : Text) : (s.clampTo t).Valid t :=
  valid_between (t.isBoundary_floor _) (t.isBoundary_floor _)

theorem valid_caret {t : Text} {i : Nat} (h : t.IsBoundary i) : (caret i).Valid t :=
  ⟨Nat.le_refl i, h, h⟩

theorem clampTo_of_valid {s : Selection} {t : Text} (h : s.Valid t) : s.clampTo t = s := by
  obtain ⟨hle, hi, hj⟩ := h
  rw [clampTo, Text.floor_of_isBoundary hi, Text.floor_of_isBoundary hj, between_of_le hle]

theorem clampTo_eq (s : Selection) (t : Text) :
    s.clampTo t = ⟨t.floor (min s.start s.stop), t.floor (max s.start s.stop)⟩ := by
  have hmono : Monotone t.floor := fun i j => t.floor_mono
  rw [clampTo, between_eq, hmono.map_min, hmono.map_max]

theorem start_clampTo_of_le {s : Selection} (h : s.start ≤ s.stop) (t : Text) :
    (s.clampTo t).start = t.floor s.start := by
  rw [clampTo_eq, Nat.min_eq_left h]

theorem Valid.stop_le {s : Selection} {t : Text} (h : s.Valid t) : s.stop ≤ t.size := h.2.2.le_size

section Nearest

def reversed (s : Selection) : Selection := ⟨s.stop, s.start⟩

/-- A selection lies at or below another one when both of its bounds do. -/
instance : LE Selection := ⟨fun r s => r.start ≤ s.start ∧ r.stop ≤ s.stop⟩

variable (s : Selection) (t : Text)

theorem clampTo_reversed : s.reversed.clampTo t = s.clampTo t := by
  rw [clampTo_eq, clampTo_eq, reversed, Nat.min_comm, Nat.max_comm]

theorem clampTo_eq_self_iff : s.clampTo t = s ↔ s.Valid t :=
  ⟨fun h => h ▸ s.valid_clampTo t, clampTo_of_valid⟩

theorem isGreatest_clampTo : IsGreatest {r | r.Valid t ∧ r ≤ between s.start s.stop}
    (s.clampTo t) := by
  have hvalid := s.valid_clampTo t
  rw [clampTo_eq] at hvalid ⊢
  rw [between_eq]
  refine ⟨⟨hvalid, t.floor_le _, t.floor_le _⟩, ?_⟩
  rintro r ⟨⟨-, hstart, hstop⟩, hle⟩
  exact ⟨Text.le_floor hstart hle.1, Text.le_floor hstop hle.2⟩

/-- Clamping finds the nearest valid selection from below. From every offset the steps down, three
at most, come to a boundary and never below zero; it is the greatest one up to the offset and the
end of the text. So is the clamped selection among the valid ones, whichever of the two bounds was
given first. -/
theorem clampTo_nearest (t : Text) :
    (∀ i, t.descend? i = some (t.floor i) ∧ min i t.size < t.floor i + 4 ∧
      IsGreatest {j | t.IsBoundary j ∧ j ≤ min i t.size} (t.floor i) ∧
        t.floor (t.floor i) = t.floor i) ∧
    Monotone t.floor ∧
    ∀ s : Selection,
      ((s.clampTo t).start ≤ (s.clampTo t).stop ∧ (s.clampTo t).stop ≤ t.size ∧
        t.IsBoundary (s.clampTo t).start ∧ t.IsBoundary (s.clampTo t).stop) ∧
      IsGreatest {r | r.Valid t ∧ r ≤ between s.start s.stop} (s.clampTo t) ∧
      (s.clampTo t = s ↔ s.Valid t) ∧ (s.clampTo t).clampTo t = s.clampTo t ∧
      s.reversed.clampTo t = s.clampTo t ∧
      s.clampTo t = ⟨t.floor (between s.start s.stop).start,
        t.floor (between s.start s.stop).stop⟩ := by
  refine ⟨fun i => ?_, fun i j => t.floor_mono, fun s => ?_⟩
  · exact ⟨t.descend?_eq_some_floor i, t.min_lt_floor_add i, t.isGreatest_floor i,
      Text.floor_of_isBoundary (t.isBoundary_floor i)⟩
  · have hvalid := s.valid_clampTo t
    refine ⟨⟨hvalid.1, hvalid.stop_le, hvalid.2⟩, s.isGreatest_clampTo t, s.clampTo_eq_self_iff t,
      clampTo_of_valid hvalid, s.clampTo_reversed t, ?_⟩
    rw [clampTo_eq, between_eq]

example : (Selection.mk 40 2).clampTo ['a', 'é'] = ⟨1, 3⟩ := by decide

end Nearest

theorem valid_append (a b c : Text) : (Selection.mk a.size (a ++ b).size).Valid (a ++ b ++ c) := by
  refine ⟨by simp, ?_, .append (a ++ b) c⟩
  rw [List.append_assoc]
  exact .append a (b ++ c)

theorem Valid.exists_parts {s : Selection} {t : Text} (h : s.Valid t) :
    ∃ a b c, t = a ++ b ++ c ∧ s = ⟨a.size, (a ++ b).size⟩ := by
  obtain ⟨i, j⟩ := s
  obtain ⟨hle, ⟨a, r, rfl, rfl⟩, ⟨p, c, hp, rfl⟩⟩ := h
  obtain ⟨b, rfl, rfl⟩ := Text.exists_between hp hle
  exact ⟨a, b, c, by simp, rfl⟩

end Selection

namespace Document

theorem valid_ofParts (t : Text) (s : Selection) :
    (ofParts t s).selection.Valid (ofParts t s).buffer :=
  s.valid_clampTo t

theorem valid_atEnd (t : Text) : (atEnd t).selection.Valid (atEnd t).buffer := by
  simpa [atEnd, Selection.caret] using Selection.valid_append t [] []

/-- A document by its three parts. -/
def ofThree (a b c : Text) : Document := ⟨a ++ b ++ c, ⟨a.size, (a ++ b).size⟩⟩

section Three

variable (a b c : Text)

@[simp] theorem clamped_ofThree : (ofThree a b c).clamped = ⟨a.size, (a ++ b).size⟩ :=
  Selection.clampTo_of_valid (Selection.valid_append a b c)

@[simp] theorem before_ofThree : (ofThree a b c).before = a := by
  rw [before, clamped_ofThree, ofThree, List.append_assoc]
  exact Text.upTo_size a (b ++ c)

@[simp] theorem selected_ofThree : (ofThree a b c).selected = b := by
  rw [selected, clamped_ofThree]
  exact Text.slice_size a b c

@[simp] theorem after_ofThree : (ofThree a b c).after = c := by
  rw [after, clamped_ofThree]
  exact Text.beyond_size (a ++ b) c

theorem ofThree_nil : ofThree a [] c = ⟨a ++ c, .caret a.size⟩ := by
  simp [ofThree, Selection.caret]

end Three

theorem exists_eq_ofThree {d : Document} (h : d.selection.Valid d.buffer) :
    ∃ a b c, d = ofThree a b c := by
  obtain ⟨a, b, c, htext, hselection⟩ := h.exists_parts
  cases d
  cases htext
  cases hselection
  exact ⟨a, b, c, rfl⟩

variable (d : Document)

theorem size_before : d.before.size = d.clamped.start := by
  rw [before, Text.size_upTo]
  exact Text.floor_of_isBoundary (d.selection.valid_clampTo d.buffer).2.1

theorem clamped_ofParts : (ofParts d.buffer d.selection).clamped = d.clamped :=
  Selection.clampTo_of_valid (valid_ofParts d.buffer d.selection)

theorem ofParts_eq_ofThree :
    ofParts d.buffer d.selection = ofThree d.before d.selected d.after := by
  obtain ⟨a, b, c, ht, hs⟩ := (valid_ofParts d.buffer d.selection).exists_parts
  have hd : ofParts d.buffer d.selection = ofThree a b c := by
    rw [ofThree, ← hs, ← ht]
  have hc := clamped_ofParts d
  have hb : d.before = a := by
    rw [← before_ofThree a b c, ← hd, before, before, hc]
    rfl
  have hm : d.selected = b := by
    rw [← selected_ofThree a b c, ← hd, selected, selected, hc]
    rfl
  have ha : d.after = c := by
    rw [← after_ofThree a b c, ← hd, after, after, hc]
    rfl
  rw [hd, hb, hm, ha]

theorem buffer_eq_append : d.buffer = d.before ++ d.selected ++ d.after :=
  congrArg buffer (ofParts_eq_ofThree d)

theorem size_before_selected : (d.before ++ d.selected).size = d.clamped.stop := by
  have hclamped : (ofThree d.before d.selected d.after).selection = d.clamped := by
    rw [← ofParts_eq_ofThree]
    rfl
  exact congrArg Selection.stop hclamped

end Document

end Dictation
