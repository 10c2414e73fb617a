import Dictation.Edit
import Dictation.Proofs.BuiltIn.Shapes
import Dictation.Proofs.Selection
import Dictation.Proofs.Text.Trim

namespace Dictation

open BuiltIn (StartsLine)
open Character (isAlphabetic isBlank)

namespace Document

section Insertion

variable (d : Document) (t : Text)

theorem insert_eq_ofThree : d.insert t = ofThree (d.before ++ t) [] d.after := by
  have hcaret : (d.before ++ t ++ d.after).IsBoundary (d.before ++ t).size :=
    .append (d.before ++ t) d.after
  rw [ofThree_nil, insert, ofParts, ← Text.size_append,
    Selection.clampTo_of_valid (Selection.valid_caret hcaret)]

@[simp] theorem before_insert : (d.insert t).before = d.before ++ t := by
  rw [insert_eq_ofThree, before_ofThree]

@[simp] theorem after_insert : (d.insert t).after = d.after := by
  rw [insert_eq_ofThree, after_ofThree]

/-- Two insertions in a row are one, and an insertion cuts the selected part out of the buffer, puts
the text there and leaves the caret behind it, between two characters. -/
theorem insert_replaces_selected (d : Document) (a b : Text) :
    (d.insert a).insert b = d.insert (a ++ b) ∧
    ∃ before selected after, d.buffer = before ++ selected ++ after ∧
      before.size = d.clamped.start ∧ (before ++ selected).size = d.clamped.stop ∧
      d.insert a = ⟨before ++ a ++ after, .caret (before ++ a).size⟩ ∧
      (d.insert a).buffer.IsBoundary (before ++ a).size := by
  have hinsert : d.insert a = ⟨d.before ++ a ++ d.after, .caret (d.before ++ a).size⟩ := by
    rw [insert_eq_ofThree, ofThree_nil]
  constructor
  · rw [insert_eq_ofThree (d.insert a), before_insert, after_insert, List.append_assoc,
      ← insert_eq_ofThree]
  · refine ⟨d.before, d.selected, d.after, d.buffer_eq_append, d.size_before,
      d.size_before_selected, hinsert, ?_⟩
    rw [hinsert]
    exact .append (d.before ++ a) d.after

end Insertion

end Document

namespace Dictated

variable {pre line t : Text}

/-- Whether a sentence opens after the start of a line: nothing stands there but spaces and tabs, or
a mark that ends a sentence comes last before them, or there are no letters. -/
def Opens (line : Text) : Prop :=
  let text := line.rdropWhile fun c => c == ' ' || c == '\t'
  text = [] ∨ text.getLast? ∈ [some '.', some '!', some '?'] ∨ text.any isAlphabetic = false

instance : DecidablePred Opens := fun _ => inferInstanceAs (Decidable (_ ∨ _ ∨ _))

/-- A text with a map applied to its first letter, or as it is when there is none. -/
def FirstLetter (f : Char → Text) (t word : Text) : Prop :=
  (∀ c ∈ t, isAlphabetic c = false) ∧ word = t ∨
    ∃ s c r, t = s ++ c :: r ∧ (∀ x ∈ s, isAlphabetic x = false) ∧ isAlphabetic c = true ∧
      word = s ++ f c ++ r

theorem firstLetter_setFirstLetter (capital : Bool) (t : Text) :
    FirstLetter (if capital then Character.upper else Character.lower) t
      (setFirstLetter capital t) := by
  induction t with
  | nil => exact .inl ⟨List.forall_mem_nil _, rfl⟩
  | cons c t ih =>
    rw [setFirstLetter]
    cases hc : isAlphabetic c with
    | true =>
      rw [if_pos rfl]
      refine .inr ⟨[], c, t, rfl, List.forall_mem_nil _, hc, ?_⟩
      cases capital <;> rfl
    | false =>
      rw [if_neg Bool.false_ne_true]
      obtain ⟨hno, hsame⟩ | ⟨s, x, r, rfl, hs, hx, hword⟩ := ih
      · exact .inl ⟨List.forall_mem_cons.2 ⟨hc, hno⟩, congrArg (c :: ·) hsame⟩
      · exact .inr ⟨c :: s, x, r, rfl, List.forall_mem_cons.2 ⟨hc, hs⟩, hx, congrArg (c :: ·) hword⟩

section Line

theorem getLast?_append_of_ne_nil (h : line ≠ []) : (pre ++ line).getLast? = line.getLast? := by
  rw [List.getLast?_append, List.getLast?_eq_some_getLast h, Option.some_or]

theorem needsSpace_append (hpre : StartsLine pre) (hline : '\n' ∉ line) :
    needsSpace (pre ++ line) = true ↔ line ≠ [] ∧ line.getLast? ≠ some ' ' := by
  rw [needsSpace]
  by_cases hnil : line = []
  · obtain rfl | ⟨s, rfl⟩ := hpre <;> simp [hnil]
  · have hlast := List.getLast?_eq_some_getLast hnil
    have hne : line.getLast hnil ≠ '\n' := ne_of_mem_of_not_mem (List.getLast_mem hnil) hline
    simp [getLast?_append_of_ne_nil hnil, hlast, hnil, hne]

theorem dropSpaces_append (h : dropSpaces line ≠ []) :
    dropSpaces (pre ++ line) = pre ++ dropSpaces line := by
  have hnot : ¬(line.reverse.dropWhile fun c => c == ' ' || c == '\t').isEmpty = true := by
    simpa [dropSpaces] using h
  rw [dropSpaces, List.reverse_append, List.dropWhile_append, if_neg hnot, List.reverse_append,
    List.reverse_reverse, dropSpaces]

theorem dropSpaces_append_of_eq_nil (hpre : StartsLine pre) (h : dropSpaces line = []) :
    dropSpaces (pre ++ line) = pre := by
  have hempty : (line.reverse.dropWhile fun c => c == ' ' || c == '\t').isEmpty = true := by
    simpa [dropSpaces] using h
  rw [dropSpaces, List.reverse_append, List.dropWhile_append, if_pos hempty]
  -- the newline before the line is no space, so nothing before it goes
  change pre.rdropWhile _ = pre
  obtain rfl | ⟨s, rfl⟩ := hpre
  · rfl
  · exact List.rdropWhile_concat_neg _ _ _ (by decide)

theorem lastLine_append (hpre : StartsLine pre) (hline : '\n' ∉ line) :
    lastLine (pre ++ line) = line := by
  have hall : ∀ c ∈ line.reverse, (c != '\n') = true := by
    intro c hc
    simpa using ne_of_mem_of_not_mem (List.mem_reverse.1 hc) hline
  have hstop : pre.reverse.takeWhile (· != '\n') = [] := by
    obtain rfl | ⟨s, rfl⟩ := hpre
    · rfl
    · simp
  rw [lastLine, List.reverse_append, List.takeWhile_append_of_pos hall, hstop, List.append_nil,
    List.reverse_reverse]

theorem startsSentence_append (hpre : StartsLine pre) (hline : '\n' ∉ line) :
    startsSentence (pre ++ line) = true ↔ Opens line := by
  change _ ↔ dropSpaces line = [] ∨ (dropSpaces line).getLast? ∈ _ ∨
    (dropSpaces line).any isAlphabetic = false
  by_cases hnil : dropSpaces line = []
  · -- nothing but spaces and tabs: the newline before them, or the start of the text, comes to
    -- stand last
    rw [startsSentence, dropSpaces_append_of_eq_nil hpre hnil]
    obtain rfl | ⟨s, rfl⟩ := hpre <;> simp [hnil]
  · have hno : '\n' ∉ dropSpaces line := fun h => hline ((List.rdropWhile_prefix _ line).subset h)
    have hlast := List.getLast?_eq_some_getLast hnil
    have hne : (dropSpaces line).getLast hnil ≠ '\n' :=
      ne_of_mem_of_not_mem (List.getLast_mem hnil) hno
    rw [startsSentence, dropSpaces_append hnil, lastLine_append hpre hno,
      getLast?_append_of_ne_nil hnil, hlast]
    simp [hnil, hne, or_assoc]

end Line

end Dictated

namespace Document

open Dictated (Opens FirstLetter)

variable {d : Document} {line u : Text}

/-- The text between the last newline before the clamped selection, or the start of the buffer, and
the selection. -/
def LineBefore (d : Document) (line : Text) : Prop :=
  ∃ pre post, d.buffer = pre ++ line ++ post ∧ (pre ++ line).size = d.clamped.start ∧
    StartsLine pre ∧ '\n' ∉ line

theorem exists_lineBefore (d : Document) : ∃ line, d.LineBefore line := by
  obtain ⟨pre, line, hbefore, hpre, hline⟩ := BuiltIn.exists_line d.before
  refine ⟨line, pre, d.selected ++ d.after, ?_, ?_, hpre, hline⟩
  · rw [← hbefore, ← List.append_assoc, ← d.buffer_eq_append]
  · rw [← hbefore, d.size_before]

theorem LineBefore.exists_before_eq (h : d.LineBefore line) :
    ∃ pre, d.before = pre ++ line ∧ StartsLine pre ∧ '\n' ∉ line := by
  obtain ⟨pre, post, hbuffer, hsize, hpre, hline⟩ := h
  refine ⟨pre, ?_, hpre, hline⟩
  rw [before, ← hsize, hbuffer, Text.upTo_size]

theorem dictation?_of_lineBefore (h : d.LineBefore line) (u : Text) :
    d.dictation? u = if u.trim.isEmpty then none else some <|
      (if line ≠ [] ∧ line.getLast? ≠ some ' ' then [' '] else []) ++
        Dictated.setFirstLetter (decide (Opens line)) u.trim := by
  obtain ⟨pre, hbefore, hpre, hline⟩ := h.exists_before_eq
  have hspace := Dictated.needsSpace_append hpre hline
  have hopens : Dictated.startsSentence (pre ++ line) = decide (Opens line) := by
    rw [Bool.eq_iff_iff, decide_eq_true_iff]
    exact Dictated.startsSentence_append hpre hline
  rw [dictation?, hbefore, hopens]
  simp only [hspace]

/-- Every document has a line before its selection, and dictated text is told by that line: a text
of blanks is nothing, any other comes trimmed, with a space before it where the line has not one at
its end, and with a capital where the line opens a sentence. Two documents with the same line before
their selections get the same text. -/
theorem dictation?_told_by_line (u : Text) :
    (∀ d : Document, ∃ line, d.LineBefore line) ∧
    (∀ (d : Document) (line : Text), d.LineBefore line →
      (d.dictation? u = none ↔ ∀ c ∈ u, isBlank c = true) ∧
      ∀ t, d.dictation? u = some t → ∃ word,
        t = (if line ≠ [] ∧ line.getLast? ≠ some ' ' then [' '] else []) ++ word ∧
        FirstLetter (if Opens line then Character.upper else Character.lower) u.trim word) ∧
    ∀ (d e : Document) (line : Text), d.LineBefore line → e.LineBefore line →
      d.dictation? u = e.dictation? u := by
  refine ⟨exists_lineBefore, fun d line h => ⟨?_, fun t ht => ?_⟩, fun d e line hd he => ?_⟩
  · rw [dictation?_of_lineBefore h, ← Text.trim_eq_nil_iff]
    simp
  · rw [dictation?_of_lineBefore h, Option.ite_none_left_eq_some, Option.some.injEq] at ht
    refine ⟨_, ht.2.symm, ?_⟩
    simpa using Dictated.firstLetter_setFirstLetter (decide (Opens line)) u.trim
  · rw [dictation?_of_lineBefore hd, dictation?_of_lineBefore he]

theorem dictation?_told_by_line_with_tab :
    let within : Text := ['a', ' ', '\t']
    let after : Text := ['a', '?', '\t']
    let raw (line : Text) : Document := ⟨['.', '\n'] ++ line ++ ['é', 'b'], ⟨9, 6⟩⟩
    let plain (line : Text) : Document := ⟨line, ⟨3, 3⟩⟩
    let u : Text := [' ', '(', 'X', 'Y', '\n']
    ((raw within).LineBefore within ∧ (plain within).LineBefore within ∧
      (raw within).dictation? u = some [' ', '(', 'x', 'Y'] ∧
      ((raw within).dictation? u = none ↔ ∀ c ∈ u, isBlank c = true) ∧
      (∃ word, [' ', '(', 'x', 'Y'] = [' '] ++ word ∧ FirstLetter Character.lower u.trim word) ∧
      (raw within).dictation? u = (plain within).dictation? u) ∧
    (raw after).LineBefore after ∧ (raw after).dictation? u = some [' ', '(', 'X', 'Y'] ∧
      ∃ word, [' ', '(', 'X', 'Y'] = [' '] ++ word ∧ FirstLetter Character.upper u.trim word := by
  intro within after raw plain u
  have hraw : (raw within).LineBefore within :=
    ⟨['.', '\n'], ['é', 'b'], rfl, by decide, .inr ⟨['.'], rfl⟩, by decide⟩
  have hplain : (plain within).LineBefore within := ⟨[], [], rfl, by decide, .inl rfl, by decide⟩
  have hafter : (raw after).LineBefore after :=
    ⟨['.', '\n'], ['é', 'b'], rfl, by decide, .inr ⟨['.'], rfl⟩, by decide⟩
  have hlower : (raw within).dictation? u = some [' ', '(', 'x', 'Y'] := by decide
  have hupper : (raw after).dictation? u = some [' ', '(', 'X', 'Y'] := by decide
  obtain ⟨-, hline, hsame⟩ := dictation?_told_by_line u
  obtain ⟨hblank, hsome⟩ := hline _ _ hraw
  exact ⟨⟨hraw, hplain, hlower, hblank, hsome _ hlower, hsame _ _ _ hraw hplain⟩, hafter, hupper,
    (hline _ _ hafter).2 _ hupper⟩

end Document

end Dictation
