import Mathlib.Data.List.Basic
import Dictation.Text.Lines

namespace Dictation.Text

variable {t : Text}

/-- At an offset a line starts with so many lines before it. -/
def StartsLine (t : Text) (i k : Nat) : Prop :=
  ∃ before after, t = before ++ after ∧ before.size = i ∧ before.count '\n' = k ∧
    ∀ c, before.getLast? = some c → c = '\n'

theorem StartsLine.isBoundary {i k : Nat} (h : t.StartsLine i k) : t.IsBoundary i := by
  obtain ⟨before, after, ht, hi, -, -⟩ := h
  exact ⟨before, after, ht, hi⟩

section Pieces

variable {separator : Char} {s p : Text}

theorem pieces_of_notMem (h : separator ∉ t) : pieces separator t = [t] := by
  induction t with
  | nil => rfl
  | cons c t ih =>
    rw [List.mem_cons, not_or] at h
    rw [pieces, if_neg (Ne.symm h.1), ih h.2]

theorem pieces_ne_nil (separator : Char) (t : Text) : pieces separator t ≠ [] := by
  cases t with
  | nil => exact List.cons_ne_nil _ _
  | cons c t =>
    rw [pieces]
    split_ifs
    · exact List.cons_ne_nil _ _
    · split <;> exact List.cons_ne_nil _ _

theorem pieces_append_separator (separator : Char) (s t : Text) :
    pieces separator (s ++ separator :: t) = pieces separator s ++ pieces separator t := by
  induction s with
  | nil => simp [pieces]
  | cons c s ih =>
    rw [List.cons_append, pieces, pieces]
    split_ifs
    · rw [ih, List.cons_append]
    · obtain ⟨p, ps, hps⟩ := List.exists_cons_of_ne_nil (pieces_ne_nil separator s)
      rw [ih, hps]
      rfl

theorem pieces_append_cons (h : separator ∉ s) (t : Text) :
    pieces separator (s ++ separator :: t) = s :: pieces separator t := by
  rw [pieces_append_separator, pieces_of_notMem h, List.singleton_append]

theorem notMem_of_mem_pieces (h : p ∈ pieces separator t) : separator ∉ p := by
  induction t generalizing p with
  | nil =>
    obtain rfl := List.mem_singleton.1 h
    exact List.not_mem_nil
  | cons c t ih =>
    rw [pieces] at h
    split_ifs at h with hc
    · rcases List.mem_cons.1 h with rfl | h
      · exact List.not_mem_nil
      · exact ih h
    · cases hp : pieces separator t with
      | nil =>
        rw [hp] at h
        obtain rfl := List.mem_singleton.1 h
        simpa using Ne.symm hc
      | cons q ps =>
        rw [hp] at h ih
        rcases List.mem_cons.1 h with rfl | h
        · have hq := ih List.mem_cons_self
          simp [hq, Ne.symm hc]
        · exact ih (List.mem_cons_of_mem q h)

end Pieces

/-- A line before a text moves on where its lines start. -/
theorem StartsLine.append {s : Text} {i k : Nat} (h : t.StartsLine i k) (hs : '\n' ∉ s) :
    StartsLine (s ++ '\n' :: t) (s.size + 1 + i) (k + 1) := by
  obtain ⟨before, after, rfl, rfl, rfl, hlast⟩ := h
  refine ⟨s ++ '\n' :: before, after, by simp, ?_, ?_, fun c hc => ?_⟩
  · rw [Text.size_append, Text.size_cons, Nat.add_assoc]
    rfl
  · rw [List.count_append, List.count_eq_zero.2 hs, List.count_cons_self, Nat.zero_add]
  · rw [List.getLast?_append_of_ne_nil _ (List.cons_ne_nil _ _)] at hc
    cases before with
    | nil => exact (Option.some.inj hc).symm
    | cons d before => exact hlast c (by rwa [List.getLast?_cons_cons] at hc)

/-- The pieces before the line that is asked for, with a newline each, are what stands before it. -/
theorem startsLine_foldr {k : Nat} (h : k ≤ t.count '\n') :
    t.StartsLine (((pieces '\n' t).take k).foldr (fun line i => size line + 1 + i) 0) k := by
  induction k generalizing t with
  | zero => exact ⟨[], t, rfl, by rw [List.take_zero]; rfl, rfl, nofun⟩
  | succ k ih =>
    have hmem : '\n' ∈ t := List.count_pos_iff.1 (Nat.lt_of_lt_of_le (Nat.succ_pos k) h)
    obtain ⟨s, r, rfl, hs⟩ := List.eq_append_cons_of_mem hmem
    have hr : k ≤ r.count '\n' := by
      rw [List.count_append, List.count_eq_zero.2 hs, List.count_cons_self] at h
      omega
    rw [pieces_append_cons hs, List.take_succ_cons, List.foldr_cons]
    exact (ih hr).append hs

theorem startsLine_lineStart (t : Text) (k : Nat) :
    t.StartsLine (t.lineStart k) (min k (t.count '\n')) :=
  startsLine_foldr (Nat.min_le_right k _)

theorem exists_line (before after : Text) : ∃ pre line, before = pre ++ line ∧
    pre.size = (before ++ after).lineStart (before.count '\n') ∧ '\n' ∉ line := by
  obtain ⟨pre, rest, ht, hsize, hcount, hlast⟩ :=
    startsLine_lineStart (before ++ after) (before.count '\n')
  rw [List.count_append, Nat.min_eq_left (Nat.le_add_right _ _)] at hcount
  obtain ⟨line, rfl, -⟩ | ⟨line, rfl, -⟩ := List.append_eq_append_iff.1 ht
  · -- The line starts after the place: then nothing stands between them, as it would have to end in
    -- a newline.
    have hline : '\n' ∉ line := by
      rw [List.count_append] at hcount
      exact List.count_eq_zero.1 (by omega)
    obtain rfl | ⟨init, c, rfl⟩ := List.eq_nil_or_concat line
    · exact ⟨before, [], (List.append_nil before).symm, by rw [← hsize, List.append_nil],
        List.not_mem_nil⟩
    · have hc : c = '\n' := hlast c
        (by rw [List.concat_eq_append, ← List.append_assoc, List.getLast?_concat])
      exact absurd (by simp [hc]) hline
  · rw [List.count_append] at hcount
    exact ⟨pre, line, rfl, hsize, List.count_eq_zero.1 (by omega)⟩

theorem lines_append {a : Text} (ha : a = [] ∨ a.getLast? = some '\n') (b : Text) :
    (a ++ b).lines = a.lines ++ b.lines := by
  rcases ha with rfl | ha
  · rfl
  · obtain ⟨s, rfl⟩ := List.getLast?_eq_some_iff.1 ha
    have hlines (t : Text) : lines (s ++ '\n' :: t) =
        (pieces '\n' s).map dropReturn ++ t.lines := by
      have ht := pieces_ne_nil '\n' t
      rw [lines, pieces_append_separator, List.dropLast_append_of_ne_nil ht,
        List.getLast?_append_of_ne_nil _ ht, List.map_append, List.append_assoc, lines]
    rw [List.append_assoc, List.singleton_append, hlines, hlines]
    simp [lines, pieces]

end Dictation.Text
