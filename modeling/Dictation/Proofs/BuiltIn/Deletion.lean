import Dictation.Proofs.BuiltIn.Rules
import Dictation.Proofs.BuiltIn.Shapes

namespace Dictation.BuiltIn

open Document (exists_eq_ofThree ofThree)
open Marker (Unmarked startBase stopBase selector startMark stopMark recover_tag tag)
open Pattern

section Sets

def isSpace : CharSet := fun c => c == ' ' || c == '\t'

def visible : CharSet := fun c => !Character.isBlank c

def closing : CharSet := fun c => c == '.' || c == '!' || c == '?'

def inSentence : CharSet := fun c => !(c == '.' || c == '!' || c == '?')

def stopSelector : Pattern := .one (· == selector)

/-- `\S+\s*` -/
def word : Pattern := .seq (.plus true (.one visible)) (run Character.isBlank)

/-- `[^.!?]+[.!?]*\s*` -/
def sentence : Pattern := .seq (.seq (.plus true (.one inSentence)) (run closing))
    (run Character.isBlank)

def sentenceSelection : Pattern :=
  .seq (.plus true (.one inSentence))
    (.seq (run closing) (.seq (run Character.isBlank) (selection none stopSelector)))

end Sets

section Readings

theorem reads_space : Reads "space" (selection none stopSelector) (.plain ' ' :: caretPieces) :=
  reads_of_getElem? 0 rfl rfl (by decide +kernel) rfl

theorem reads_delete : Reads "delete|backspace"
    (.seq (.opt true (.group 1 word)) (selection none stopSelector))
    caretPieces :=
  reads_of_getElem? 1 rfl rfl (by decide +kernel) rfl

theorem reads_sentenceDelete : Reads "sentence delete" sentenceSelection caretPieces :=
  reads_of_getElem? 2 rfl rfl (by decide +kernel) rfl

theorem reads_selectionDelete :
    Reads "selection delete" (selection none stopSelector) caretPieces :=
  reads_of_getElem? 3 rfl rfl (by decide +kernel) rfl

theorem reads_clearAll : Reads "clear all" (run anything) caretPieces :=
  reads_of_getElem? 4 rfl rfl (by decide +kernel) rfl

theorem reads_clearSpace : Reads "clear space"
    (.seq (run isSpace) (selection (some 1) (afterStop (run isSpace))))
    ([.plain startBase, .plain selector, .group 1, .plain stopBase, .plain selector]) :=
  reads_of_getElem? 5 rfl rfl (by decide +kernel) rfl

end Readings

section Selection

variable {a b c x w e v : Text} {p : Pattern} {trigger : String} {ps : List Replacement.Piece}
  {captures : List Capture}

/-- A match of a selection with something before it and something after it is the only one, if
matches start neither earlier nor after the selection. -/
theorem Reads.replace?_of_takes_around (h : Reads trigger p ps)
    (htakes : Takes p .empty x (w ++ (startMark ++ b ++ stopMark ++ e)) v captures)
    (hfits : ∀ x' y, x' ++ y = tag (ofThree (x ++ w) b (e ++ v)) → Fits p x' y →
      ∃ u, x ++ w = x' ++ u ∧ u.length ≤ w.length)
    {a' b' c' : Text} (hout : x ++ ps.flatMap (fill captures) ++ v = tag (ofThree a' b' c'))
    (hd : Unmarked (a' ++ b' ++ c')) :
    replace? trigger (ofThree (x ++ w) b (e ++ v)) = leaves (ofThree a' b' c') := by
  have htag : tag (ofThree (x ++ w) b (e ++ v)) =
      x ++ (w ++ (startMark ++ b ++ stopMark ++ e)) ++ v := by
    simp [tag_eq]
  refine h.replace?_of_takes htag htakes ?_ hout hd
  intro x' y htext hat
  obtain ⟨u, hu, hle⟩ := hfits x' y (htag ▸ htext) hat
  have hlen := congrArg List.length hu
  have hmark : 0 < startMark.length := by decide
  simp only [List.length_append] at hlen ⊢
  omega

theorem takes_stopSelection (hd : Unmarked (a ++ b ++ c)) :
    Takes (selection none stopSelector) .empty a (startMark ++ b ++ stopMark) c [] ∧
      FitsOnly (.seq (selection none stopSelector) .empty) a (startMark ++ b ++ stopMark ++ c) := by
  have hlast : Takes stopSelector .empty (a ++ startMark ++ b ++ [stopBase]) [selector] c [] :=
    takes_char selector
  have htakes := takes_selection none (u := []) hd hlast
  rw [List.append_nil] at htakes
  exact ⟨htakes, fitsOnly_selection hd (htakes.fits fits_empty)⟩

theorem flatMap_fill_plain (s : Text) :
    (s.map Replacement.Piece.plain).flatMap (fill captures) = s := by
  induction s with
  | nil => rfl
  | cons c s ih => exact congrArg (c :: ·) ih

theorem Reads.replace?_cut {s : Text} (h : Reads trigger p (s.map .plain ++ caretPieces))
    (htakes : Takes p .empty x (w ++ (startMark ++ b ++ stopMark)) c captures)
    (hfits : ∀ x' y, x' ++ y = x ++ w ++ (startMark ++ b ++ stopMark ++ c) → Fits p x' y →
      ∃ u, x ++ w = x' ++ u ∧ u.length ≤ w.length)
    (hd : Unmarked (x ++ w ++ b ++ c)) (hs : Unmarked s) :
    replace? trigger (ofThree (x ++ w) b c) = leaves (ofThree (x ++ s) [] c) := by
  refine h.replace?_of_takes_around (e := []) (by rwa [List.append_nil]) ?_ ?_ ?_
  · intro x' y htext
    exact hfits x' y (by simpa [tag_eq] using htext)
  · rw [List.flatMap_append, flatMap_fill_plain]
    simp [caretPieces, fill, tag_eq, startMark, stopMark]
  · simp only [Marker.unmarked_append] at hd
    simp only [Marker.unmarked_append]
    exact ⟨⟨⟨hd.1.1.1, hs⟩, Marker.unmarked_nil⟩, hd.2⟩

theorem replace?_selection {s : Text}
    (h : Reads trigger (selection none stopSelector) (s.map .plain ++ caretPieces))
    (hd : Unmarked (a ++ b ++ c)) (hs : Unmarked s) :
    replace? trigger (ofThree a b c) = leaves (ofThree (a ++ s) [] c) := by
  obtain ⟨htakes, honly⟩ := takes_stopSelection hd
  have hfits : ∀ x y, x ++ y = a ++ [] ++ (startMark ++ b ++ stopMark ++ c) →
    Fits (selection none stopSelector) x y →
      ∃ u : Text, a ++ [] = x ++ u ∧ u.length ≤ 0 := by
    intro x y htext hat
    rw [List.append_nil] at htext
    obtain rfl := honly.only x y htext (fits_seq_empty_iff.2 hat)
    exact ⟨[], rfl, le_rfl⟩
  have hcut := h.replace?_cut (w := []) htakes hfits (by rwa [List.append_nil]) hs
  rwa [List.append_nil] at hcut

theorem replace?_selectionDelete (hd : Unmarked (a ++ b ++ c)) :
    replace? "selection delete" (ofThree a b c) = leaves (ofThree a [] c) := by
  have hcut := replace?_selection (s := []) reads_selectionDelete hd Marker.unmarked_nil
  rwa [List.append_nil] at hcut

theorem replace?_space (hd : Unmarked (a ++ b ++ c)) :
    replace? "space" (ofThree a b c) = leaves (ofThree (a ++ [' ']) [] c) :=
  replace?_selection reads_space hd (by decide)

end Selection

section Endings

/-- Visible characters, and blanks after them. -/
def IsWord (t : Text) : Prop :=
  ∃ u v, t = u ++ v ∧ u ≠ [] ∧ (∀ c ∈ u, Character.isBlank c = false) ∧
    ∀ c ∈ v, Character.isBlank c = true

/-- Characters that do not close a sentence, then such as do, and then blanks. -/
def IsSentence (t : Text) : Prop :=
  ∃ u v w, t = u ++ (v ++ w) ∧ (u ≠ [] ∧ ∀ c ∈ u, c ∉ ['.', '!', '?']) ∧
    (∀ c ∈ v, c ∈ ['.', '!', '?']) ∧ ∀ c ∈ w, Character.isBlank c = true

/-- After `rest` comes the longest ending of `t` with a property. -/
structure LongestEnding (P : Text → Prop) (t rest ending : Text) : Prop where
  split : t = rest ++ ending
  holds : P ending
  longest : ∀ s e, t = s ++ e → P e → e.length ≤ ending.length

theorem exists_longestEnding (P : Text → Prop) (t : Text) :
    (∃ rest ending, LongestEnding P t rest ending) ∨ ∀ s e, t = s ++ e → ¬P e := by
  induction t with
  | nil =>
    by_cases h : P []
    · exact .inl ⟨[], [], rfl, h, fun s e hse _ => by simp [List.append_eq_nil_iff.1 hse.symm]⟩
    · refine .inr fun s e hse => ?_
      rwa [(List.append_eq_nil_iff.1 hse.symm).2]
  | cons c t ih =>
    by_cases h : P (c :: t)
    · refine .inl ⟨[], c :: t, rfl, h, fun s e hse _ => ?_⟩
      rw [hse, List.length_append]
      exact Nat.le_add_left _ _
    -- an ending of `c :: t` with the property is not all of it, so it is one of `t`
    · have hproper : ∀ s e, c :: t = s ++ e → P e → ∃ s', t = s' ++ e := by
        intro s e hse he
        obtain _ | ⟨d, s⟩ := s
        · exact absurd (hse ▸ he) h
        · exact ⟨s, (List.cons.inj hse).2⟩
      obtain ⟨rest, ending, hending⟩ | hno := ih
      · refine .inl ⟨c :: rest, ending, congrArg (c :: ·) hending.split, hending.holds,
          fun s e hse he => ?_⟩
        obtain ⟨s', hs'⟩ := hproper s e hse he
        exact hending.longest s' e hs' he
      · refine .inr fun s e hse he => ?_
        obtain ⟨s', hs'⟩ := hproper s e hse he
        exact hno s' e hs' he

theorem LongestEnding.rest_eq {P : Text → Prop} {t rest rest' ending ending' : Text}
    (h : LongestEnding P t rest ending) (h' : LongestEnding P t rest' ending') : rest = rest' := by
  have hle := h.longest rest' ending' h'.split h'.holds
  have hge := h'.longest rest ending h.split h.holds
  have hsplit := h.split.symm.trans h'.split
  exact (List.append_inj' hsplit (Nat.le_antisymm hge hle)).1

variable {x z w : Text}

theorem matches_word_iff : Matches word x w z ↔ IsWord w := by
  simp only [word, run, matches_seq_iff, matches_plus_one_iff, matches_star_one_iff, visible,
    Bool.not_eq_true', IsWord, and_assoc]

theorem matches_sentence_iff : Matches sentence x w z ↔ IsSentence w := by
  have hclosing : ∀ c, closing c = true ↔ c ∈ ['.', '!', '?'] := by simp [closing, or_assoc]
  have hinside : ∀ c, inSentence c = true ↔ c ∉ ['.', '!', '?'] := by simp [inSentence, and_assoc]
  simp only [sentence, run, matches_seq_iff, matches_plus_one_iff, matches_star_one_iff, hclosing,
    hinside, IsSentence]
  constructor
  · rintro ⟨_, w, rfl, ⟨u, v, rfl, hu, hv⟩, hw⟩
    exact ⟨u, v, w, List.append_assoc u v w, hu, hv, hw⟩
  · rintro ⟨u, v, w, rfl, hu, hv, hw⟩
    exact ⟨u ++ v, w, (List.append_assoc u v w).symm, ⟨u, v, rfl, hu, hv⟩, hw⟩

end Endings

section Before

variable {a b c x y w rest : Text}

theorem takes_sentenceSelection {captures : List Capture}
    (h : Takes (.seq sentence (selection none stopSelector)) .empty x w y captures) :
    Takes sentenceSelection .empty x w y captures := h.assoc.assoc

theorem fits_sentenceSelection_iff :
    Fits sentenceSelection x y ↔ Fits (.seq sentence (selection none stopSelector)) x y := by
  rw [sentence, fits_seq_seq_iff, fits_seq_seq_iff, sentenceSelection]

theorem replace?_sentenceDelete (hw : LongestEnding IsSentence a rest w)
    (hd : Unmarked (a ++ b ++ c)) :
    replace? "sentence delete" (ofThree a b c) = leaves (ofThree rest [] c) := by
  obtain ⟨htakes, honly⟩ := takes_stopSelection hd
  obtain rfl := hw.split
  have hfinds : Finds sentence := (finds_plus.seq finds_star).seq finds_star
  obtain ⟨cs, hsentence⟩ := honly.exists_takes hfinds (matches_sentence_iff.2 hw.holds)
  have hfits : ∀ x y, x ++ y = rest ++ w ++ (startMark ++ b ++ stopMark ++ c) →
    Fits sentenceSelection x y →
      ∃ u, rest ++ w = x ++ u ∧ u.length ≤ w.length := by
    intro x y htext hat
    have hseq := fits_seq_seq_iff.1 (fits_seq_empty_iff.2 (fits_sentenceSelection_iff.1 hat))
    obtain ⟨u, hu, -, hmatch⟩ := honly.exists_before htext hseq
    exact ⟨u, hu, hw.longest x u hu (matches_sentence_iff.1 hmatch)⟩
  have hall := takes_sentenceSelection (hsentence.seq htakes)
  have hcut := reads_sentenceDelete.replace?_cut (s := []) hall hfits hd Marker.unmarked_nil
  rwa [List.append_nil] at hcut

theorem of_fits_wordSelection {z : Text}
    (honly : FitsOnly (.seq (selection none stopSelector) .empty) a z)
    (htext : x ++ y = a ++ z)
    (h : Fits (.seq (.opt true (.group 1 word)) (selection none stopSelector)) x y) :
    x = a ∨ ∃ u, a = x ++ u ∧ IsWord u := by
  obtain hskip | hword := fits_seq_opt_iff.1 h
  · exact .inl (honly.only x y htext (fits_seq_empty_iff.2 hskip))
  · have hseq := fits_seq_seq_iff.1 (fits_seq_empty_iff.2 (fits_seq_group_iff.1 hword))
    obtain ⟨u, hu, -, hmatch⟩ := honly.exists_before htext hseq
    exact .inr ⟨u, hu, matches_word_iff.1 hmatch⟩

theorem replace?_delete (hw : LongestEnding IsWord a rest w) (hd : Unmarked (a ++ b ++ c)) :
    replace? "delete|backspace" (ofThree a b c) = leaves (ofThree rest [] c) := by
  obtain ⟨htakes, honly⟩ := takes_stopSelection hd
  obtain rfl := hw.split
  obtain ⟨cs, hword⟩ := honly.exists_takes (finds_plus.seq finds_star) (matches_word_iff.2 hw.holds)
  have hall := ((hword.group 1).optSome honly.fits).seq htakes
  have hfits : ∀ x y, x ++ y = rest ++ w ++ (startMark ++ b ++ stopMark ++ c) →
      Fits (.seq (.opt true (.group 1 word)) (selection none stopSelector)) x y →
      ∃ u, rest ++ w = x ++ u ∧ u.length ≤ w.length := by
    intro x y htext hat
    obtain rfl | ⟨u, hu, hword⟩ := of_fits_wordSelection honly htext hat
    · exact ⟨[], (List.append_nil _).symm, Nat.zero_le _⟩
    · exact ⟨u, hu, hw.longest x u hu hword⟩
  have hcut := reads_delete.replace?_cut (s := []) hall hfits hd Marker.unmarked_nil
  rwa [List.append_nil] at hcut

theorem replace?_delete_of_none (hno : ∀ s e, a = s ++ e → ¬IsWord e)
    (hd : Unmarked (a ++ b ++ c)) :
    replace? "delete|backspace" (ofThree a b c) = leaves (ofThree a [] c) := by
  obtain ⟨htakes, honly⟩ := takes_stopSelection hd
  -- the optional group is passed over only because nothing before the selection is a word up to it
  have hopt : ¬Fits (.seq (.group 1 word) (.seq (selection none stopSelector) .empty)) a
      (startMark ++ b ++ stopMark ++ c) := by
    intro hat
    obtain ⟨u, hu, -, hmatch⟩ := honly.exists_before rfl (fits_seq_group_iff.1 hat)
    exact hno a u hu (matches_word_iff.1 hmatch)
  have hafter : Takes (selection none stopSelector) .empty (a ++ [])
      (startMark ++ b ++ stopMark) c [] := by
    rwa [List.append_nil]
  have hall := (takes_opt_none hopt).seq hafter
  have hfits : ∀ x y, x ++ y = a ++ [] ++ (startMark ++ b ++ stopMark ++ c) →
      Fits (.seq (.opt true (.group 1 word)) (selection none stopSelector)) x y →
      ∃ u : Text, a ++ [] = x ++ u ∧ u.length ≤ 0 := by
    intro x y htext hat
    rw [List.append_nil] at htext ⊢
    obtain rfl | ⟨u, hu, hword⟩ := of_fits_wordSelection honly htext hat
    · exact ⟨[], (List.append_nil _).symm, le_rfl⟩
    · exact absurd hword (hno x u hu)
  have hcut := reads_delete.replace?_cut (s := []) hall hfits
    (by rwa [List.append_nil]) Marker.unmarked_nil
  rwa [List.append_nil] at hcut

theorem replace?_sentenceDelete_of_none (hno : ∀ s e, a = s ++ e → ¬IsSentence e)
    (hd : Unmarked (a ++ b ++ c)) :
    replace? "sentence delete" (ofThree a b c) = leaves (ofThree a b c) := by
  obtain ⟨-, honly⟩ := takes_stopSelection hd
  refine reads_sentenceDelete.replace?_of_none ?_ hd
  intro x y htext hat
  have hseq := fits_seq_seq_iff.1 (fits_seq_empty_iff.2 (fits_sentenceSelection_iff.1 hat))
  obtain ⟨u, hu, -, hmatch⟩ := honly.exists_before (by simpa [tag_eq] using htext) hseq
  exact hno x u hu (matches_sentence_iff.1 hmatch)

end Before

section Clear

variable {a b c x w e v : Text}

theorem replace?_clearAll (d : Document) : replace? "clear all" d = leaves .empty := by
  have hne : tag d ≠ [] := by simp [tag, startMark]
  have htakes : Takes (run anything) .empty [] (tag d) [] [] := takes_rest fits_empty
  have hend : Takes (run anything) .empty (tag d) [] [] [] := takes_rest fits_empty
  have hfill : caretPieces.flatMap (·.expand [] (tag d) (matchOf [] (tag d) [])) =
      caretPieces.flatMap (fill []) :=
    flatMap_expand_matchOf (by simp) rfl
  have hout : caretPieces.flatMap (fill []) = tag (ofThree [] [] []) := by
    simp [caretPieces, fill, tag_eq, startMark, stopMark]
  rw [reads_clearAll.replace?_eq, replaceAll_of_whole hne htakes hend, hfill, hout,
    recover_tag (by simp)]
  rfl

theorem length_le_rtakeWhile {f : Char → Bool} {u : Text} (x : Text) (hu : ∀ c ∈ u, f c = true) :
    u.length ≤ ((x ++ u).rtakeWhile f).length := by
  have hreverse : ∀ c ∈ u.reverse, f c = true := fun c hc => hu c (List.mem_reverse.1 hc)
  rw [List.rtakeWhile, List.reverse_append, List.takeWhile_append_of_pos hreverse]
  simp

theorem replace?_clearSpace_between (hw : ∀ c ∈ w, isSpace c = true)
    (he : ∀ c ∈ e, isSpace c = true)
    (hlongest : ∀ x' u, x ++ w = x' ++ u → (∀ c ∈ u, isSpace c = true) → u.length ≤ w.length)
    (hv : ∀ c ∈ v.head?, isSpace c = false) (hd : Unmarked (x ++ w ++ b ++ (e ++ v))) :
    replace? "clear space" (ofThree (x ++ w) b (e ++ v)) = leaves (ofThree x b v) := by
  have hlast (y : Text) := takes_afterStop (takes_star_run (x := y ++ [selector]) he hv fits_empty)
  have htakes := takes_selection (some 1) hd (hlast _)
  have hfits := htakes.fits fits_empty
  rw [List.append_assoc _ e v] at hfits
  have honly := fitsOnly_selection hd hfits
  rw [← List.append_assoc] at honly
  have hspaces : Takes (run isSpace) _ x w _ [] := takes_star_of_only hw honly
  have hall := hspaces.seq htakes
  refine reads_clearSpace.replace?_of_takes_around hall ?_ ?_ ?_
  · intro x' y htext hat
    have htext : x' ++ y = x ++ w ++ (startMark ++ b ++ stopMark ++ e ++ v) := by
      simpa [tag_eq] using htext
    obtain ⟨u, hu, -, hspaces⟩ :=
      honly.exists_before htext (fits_seq_seq_iff.1 (fits_seq_empty_iff.2 hat))
    exact ⟨u, hu, hlongest x' u hu (matches_star_one_iff.1 hspaces)⟩
  · simp [fill, selectedCaptures, tag_eq, startMark, stopMark]
  · simp only [Marker.unmarked_append] at hd ⊢
    exact ⟨⟨hd.1.1.1, hd.1.2⟩, hd.2.2⟩

theorem replace?_clearSpace (hd : Unmarked (a ++ b ++ c)) :
    replace? "clear space" (ofThree a b c) =
      leaves (ofThree (a.rdropWhile isSpace) b (c.dropWhile isSpace)) := by
  have ha := List.rdropWhile_append_rtakeWhile (p := isSpace) (l := a)
  have hc := List.takeWhile_append_dropWhile (p := isSpace) (l := c)
  have hcleared := replace?_clearSpace_between (x := a.rdropWhile isSpace)
    (w := a.rtakeWhile isSpace) (b := b)
    (e := c.takeWhile isSpace) (v := c.dropWhile isSpace) (fun d hd => List.mem_rtakeWhile_imp hd)
    (fun d hd => List.mem_takeWhile_imp hd) ?_ ?_ (by rwa [ha, hc])
  · rwa [ha, hc] at hcleared
  · intro x u hxu hu
    have hlen := length_le_rtakeWhile x hu
    rwa [← hxu, ha] at hlen
  · intro d hd
    rw [← List.find?_not_eq_head?_dropWhile] at hd
    simpa using List.find?_some hd

end Clear

/-- What the rules that delete, and the one that puts in a space, leave of a document. -/
theorem deletes_nothing_else (d : Document) (hd : Unmarked d.buffer)
    (hs : d.selection.Valid d.buffer) :
    replace? "selection delete" d = leaves (ofThree d.before [] d.after) ∧
    replace? "space" d = leaves (ofThree (d.before ++ [' ']) [] d.after) ∧
    ((∃ rest w, LongestEnding IsWord d.before rest w ∧
        replace? "delete|backspace" d = leaves (ofThree rest [] d.after)) ∨
      ((∀ s e, d.before = s ++ e → ¬IsWord e) ∧
        replace? "delete|backspace" d = leaves (ofThree d.before [] d.after))) ∧
    ((∃ rest w, LongestEnding IsSentence d.before rest w ∧
        replace? "sentence delete" d = leaves (ofThree rest [] d.after)) ∨
      ((∀ s e, d.before = s ++ e → ¬IsSentence e) ∧ replace? "sentence delete" d = leaves d)) ∧
    replace? "clear space" d =
      leaves (ofThree (d.before.rdropWhile isSpace) d.selected (d.after.dropWhile isSpace)) ∧
    replace? "clear all" d = leaves .empty := by
  obtain ⟨a, b, c, rfl⟩ := exists_eq_ofThree hs
  have hd : Unmarked (a ++ b ++ c) := hd
  simp only [Document.before_ofThree, Document.selected_ofThree, Document.after_ofThree]
  refine ⟨replace?_selectionDelete hd, replace?_space hd, ?_, ?_, replace?_clearSpace hd,
    replace?_clearAll _⟩
  · obtain ⟨rest, w, hw⟩ | hno := exists_longestEnding IsWord a
    · exact .inl ⟨rest, w, hw, replace?_delete hw hd⟩
    · exact .inr ⟨hno, replace?_delete_of_none hno hd⟩
  · obtain ⟨rest, w, hw⟩ | hno := exists_longestEnding IsSentence a
    · exact .inl ⟨rest, w, hw, replace?_sentenceDelete hw hd⟩
    · exact .inr ⟨hno, replace?_sentenceDelete_of_none hno hd⟩

theorem deletes_nothing_else_after_sentence :
    let d : Document := ofThree [' ', 'a', '.', ' '] ['b'] ['\t', 'c']
    (Unmarked d.buffer ∧ d.selection.Valid d.buffer) ∧
    replace? "selection delete" d = leaves (ofThree [' ', 'a', '.', ' '] [] ['\t', 'c']) ∧
    replace? "space" d = leaves (ofThree [' ', 'a', '.', ' ', ' '] [] ['\t', 'c']) ∧
    replace? "delete|backspace" d = leaves (ofThree [' '] [] ['\t', 'c']) ∧
    replace? "sentence delete" d = leaves (ofThree [] [] ['\t', 'c']) ∧
    replace? "clear space" d = leaves (ofThree [' ', 'a', '.'] ['b'] ['c']) ∧
    replace? "clear all" d = leaves ⟨[], ⟨0, 0⟩⟩ := by
  intro d
  have hd : Unmarked d.buffer := by decide
  have hs : d.selection.Valid d.buffer := Selection.valid_append _ _ _
  have hbefore : d.before = [' ', 'a', '.', ' '] := by decide
  have hselected : d.selected = ['b'] := by decide
  have hafter : d.after = ['\t', 'c'] := by decide
  have hword : LongestEnding IsWord [' ', 'a', '.', ' '] [' '] ['a', '.', ' '] := by
    refine ⟨rfl, ⟨['a', '.'], [' '], rfl, by decide, by simp [Character.isBlank],
      by simp [Character.isBlank]⟩, ?_⟩
    intro s e hse he
    obtain _ | ⟨c, s⟩ := s
    · -- a blank does not begin a word
      obtain ⟨u, v, huv, hne, hu, -⟩ := he
      obtain ⟨c, u, rfl⟩ := List.exists_cons_of_ne_nil hne
      obtain ⟨rfl, -⟩ := List.cons.inj (hse.trans huv)
      exact absurd (hu ' ' List.mem_cons_self) (by decide)
    · have hlen := congrArg List.length hse
      simp only [List.length_append, List.length_cons, List.length_nil] at hlen ⊢
      omega
  have hsentence : LongestEnding IsSentence [' ', 'a', '.', ' '] [] [' ', 'a', '.', ' '] := by
    refine ⟨rfl, ⟨[' ', 'a'], ['.'], [' '], rfl, by simp, by simp, by simp [Character.isBlank]⟩, ?_⟩
    intro s e hse _
    rw [hse, List.length_append]
    exact Nat.le_add_left _ _
  have hdeletes := deletes_nothing_else d hd hs
  rw [hbefore, hselected, hafter] at hdeletes
  obtain ⟨hselection, hspace, hdelete, hsentenceDelete, hclear, hall⟩ := hdeletes
  refine ⟨⟨hd, hs⟩, hselection, hspace, ?_, ?_, hclear, hall⟩
  · obtain ⟨rest, w, hw, hdelete⟩ | ⟨hno, -⟩ := hdelete
    · rwa [hw.rest_eq hword] at hdelete
    · exact absurd hword.holds (hno _ _ hword.split)
  · obtain ⟨rest, w, hw, hdelete⟩ | ⟨hno, -⟩ := hsentenceDelete
    · rwa [hw.rest_eq hsentence] at hdelete
    · exact absurd hsentence.holds (hno _ _ hsentence.split)

end Dictation.BuiltIn
