import Dictation.Proofs.BuiltIn.Rules
import Dictation.Proofs.BuiltIn.Shapes
import Dictation.Proofs.Replacement

namespace Dictation.BuiltIn

open Document (exists_eq_ofThree ofThree ofThree_nil)
open Marker (Unmarked startBase stopBase selector startMark stopMark tag)
open Pattern

/-- `^([\s\S]*)🅰️([\s\S]*?)🅱️([\s\S]*)$` -/
def wholeText : Pattern :=
  .seq (.place .lineStart) (.seq (.group 1 (run anything))
    (selection (some 2) (afterStop (.seq (.group 3 (run anything)) (.place .lineEnd)))))

section Readings

theorem reads_moveUp : Reads "move up"
    (fromLineStart 2 (.seq (.one (· == '\n')) (.seq (.group 3 (run inLine))
      (selection (some 4) (afterStop (.seq (.group 5 (run inLine)) (.group 6 (run anything))))))))
    (.group 1 :: (caretPieces ++
      [.group 2, .plain '\n', .group 3, .group 4, .group 5, .group 6])) :=
  reads_of_getElem? 6 rfl rfl (by decide +kernel) rfl

theorem reads_moveDown : Reads "move down"
    (fromLineStart 2 (selection (some 3) (afterStop (.seq (.group 4 (run inLine))
      (.seq (.one (· == '\n')) (.seq (.group 5 (run inLine)) (.group 6 (run anything))))))))
    ([.group 1, .group 2, .group 3, .group 4, .plain '\n'] ++ caretPieces ++
      [.group 5, .group 6]) :=
  reads_of_getElem? 7 rfl rfl (by decide +kernel) rfl

theorem reads_moveToStart : Reads "move to start( of line)?"
    (fromLineStart 2 (selection (some 3) (afterStop (.group 4 (run anything)))))
    (.group 1 :: (caretPieces ++ [.group 2, .group 3, .group 4])) :=
  reads_of_getElem? 8 rfl rfl (by decide +kernel) rfl

theorem reads_moveToEnd : Reads "move to end( of line)?"
    (fromLineStart 2 (selection (some 3)
      (afterStop (.seq (.group 4 (run inLine)) (.group 5 (run anything))))))
    ([.group 1, .group 2, .group 3, .group 4] ++ caretPieces ++ [.group 5]) :=
  reads_of_getElem? 9 rfl rfl (by decide +kernel) rfl

theorem reads_moveToTop :
    Reads "move to top" wholeText (caretPieces ++ [.group 1, .group 2, .group 3]) :=
  reads_of_getElem? 10 rfl rfl (by decide +kernel) rfl

theorem reads_moveToBottom :
    Reads "move to bottom" wholeText ([.group 1, .group 2, .group 3] ++ caretPieces) :=
  reads_of_getElem? 11 rfl rfl (by decide +kernel) rfl

end Readings

section Lines

variable {a b c pre line post : Text} {last : Pattern} {captures : List Capture} {i j : Nat}

theorem takes_line_and_selection (hpre : StartsLine pre) (hline : '\n' ∉ line)
    (hd : Unmarked (pre ++ line ++ b ++ c))
    (hlast : Takes last .empty (pre ++ line ++ startMark ++ b ++ [stopBase]) (selector :: c)
      [] captures) :
    Takes (fromLineStart i (selection (some j) last)) .empty [] (tag (ofThree (pre ++ line) b c)) []
      (captures ++ [⟨j, pre ++ line ++ startMark, b⟩, ⟨i, pre, line⟩, ⟨1, [], pre⟩]) := by
  obtain ⟨hselection, honly⟩ := takes_selection_rest (some j) hd hlast
  have htakes := takes_fromLineStart (i := i) hpre hline hselection (by rwa [List.append_nil])
  rw [tag_eq, List.append_assoc pre]
  rwa [List.append_assoc captures] at htakes

theorem replace?_moveToStart (hpre : StartsLine pre) (hline : '\n' ∉ line)
    (hd : Unmarked (pre ++ line ++ b ++ c)) :
    replace? "move to start( of line)?" (ofThree (pre ++ line) b c) =
      leaves (ofThree pre [] (line ++ b ++ c)) := by
  have htakes := takes_line_and_selection (i := 2) (j := 3) hpre hline hd
    (takes_afterStop ((takes_rest fits_empty).group 4))
  refine reads_moveToStart.replace?_of_takes_all htakes rfl ?_ (by simpa using hd)
  simp [fill, caretPieces, tag_eq, startMark, stopMark]

theorem replace?_moveToEnd (hline : '\n' ∉ line) (hpost : EndsLine post)
    (hd : Unmarked (a ++ b ++ (line ++ post))) :
    replace? "move to end( of line)?" (ofThree a b (line ++ post)) =
      leaves (ofThree (a ++ b ++ line) [] post) := by
  obtain ⟨pre, first, rfl, hpre, hfirst⟩ := exists_line a
  have htakes := takes_line_and_selection (i := 2) (j := 3) hpre hfirst hd
    (takes_afterStop (takes_lineEnd (i := 4) (j := 5) hline hpost))
  refine reads_moveToEnd.replace?_of_takes_all htakes rfl ?_ (by simpa using hd)
  simp [fill, caretPieces, tag_eq, startMark, stopMark]

theorem replace?_moveDown (hline : '\n' ∉ line) (hd : Unmarked (a ++ b ++ (line ++ '\n' :: post))) :
    replace? "move down" (ofThree a b (line ++ '\n' :: post)) =
      leaves (ofThree (a ++ b ++ line ++ ['\n']) [] post) := by
  obtain ⟨pre, first, rfl, hpre, hfirst⟩ := exists_line a
  obtain ⟨below, rest, rfl, hbelow, hrest⟩ := exists_lineEnd post
  have hnewline (x : Text) := (takes_char '\n').seq
    (takes_lineEnd (i := 5) (j := 6) (x := x ++ ['\n']) hbelow hrest)
  have hlast (x : Text) := (takes_line (i := 4) hline (.inr ⟨_, rfl⟩)
    ((hnewline (x ++ line)).fits fits_empty)).seq (hnewline (x ++ line))
  have htakes := takes_line_and_selection (i := 2)
    (j := 3) hpre hfirst hd (takes_afterStop (hlast _))
  refine reads_moveDown.replace?_of_takes_all htakes rfl ?_ (by simpa using hd)
  simp [fill, caretPieces, tag_eq, startMark, stopMark]

theorem replace?_moveDown_of_notMem (hc : '\n' ∉ c) (hd : Unmarked (a ++ b ++ c)) :
    replace? "move down" (ofThree a b c) = leaves (ofThree a b c) := by
  refine reads_moveDown.replace?_of_none ?_ hd
  intro x y htext hfits
  obtain ⟨u, v, rfl, hselection⟩ := exists_of_fits_fromLineStart hfits
  rw [tag_eq, ← List.append_assoc] at htext
  obtain ⟨-, hlast⟩ := of_fits_selection hd htext hselection
  obtain ⟨_, hrest, hline⟩ := fits_seq_char_iff.1 (fits_seq_seq_iff.1 hlast)
  obtain ⟨-, rfl⟩ := List.cons.inj hrest
  obtain ⟨line, _, rfl, -, hnewline⟩ := fits_seq_iff.1 (fits_seq_seq_iff.1 hline)
  obtain ⟨post, rfl, -⟩ := fits_seq_char_iff.1 (fits_seq_seq_iff.1 hnewline)
  exact hc (by simp)

theorem replace?_moveUp (hpre : StartsLine pre) (hline : '\n' ∉ line) (hpost : '\n' ∉ post)
    (hd : Unmarked (pre ++ line ++ '\n' :: post ++ b ++ c)) :
    replace? "move up" (ofThree (pre ++ line ++ '\n' :: post) b c) =
      leaves (ofThree pre [] (line ++ '\n' :: post ++ b ++ c)) := by
  obtain ⟨rest, tail, rfl, hrest, htail⟩ := exists_lineEnd c
  obtain ⟨hselection, honly⟩ := takes_selection_rest (some 4) hd
    (takes_afterStop (takes_lineEnd (i := 5) (j := 6) hrest htail))
  -- of the newlines before the selection only the last can be the one before the third group
  have hnewline_only := (fitsOnly_newline (i := 3) hpost honly).congr fun x y => fits_seq_seq_iff
  have hsplit : pre ++ line ++ '\n' :: post = pre ++ line ++ ['\n'] ++ post := by simp
  rw [hsplit] at hselection honly
  have hgroup := (takes_line_of_only (i := 3) hpost (by rwa [List.append_nil])).seq hselection
  have hnewline := (takes_char '\n').seq hgroup
  have htakes := takes_fromLineStart (i := 2) hpre hline hnewline (by simpa using hnewline_only)
  have htag : tag (ofThree (pre ++ line ++ '\n' :: post) b (rest ++ tail)) =
      pre ++ (line ++ (['\n'] ++ (post ++ (startMark ++ b ++ stopMark ++ (rest ++ tail))))) := by
    simp [tag_eq]
  rw [← htag] at htakes
  refine reads_moveUp.replace?_of_takes_all htakes rfl ?_ (by simpa using hd)
  simp [fill, caretPieces, tag_eq, startMark, stopMark, selectedCaptures]

theorem replace?_moveUp_of_notMem (ha : '\n' ∉ a) (hd : Unmarked (a ++ b ++ c)) :
    replace? "move up" (ofThree a b c) = leaves (ofThree a b c) := by
  refine reads_moveUp.replace?_of_none ?_ hd
  intro x y htext hfits
  obtain ⟨u, _, rfl, hnewline⟩ := exists_of_fits_fromLineStart hfits
  obtain ⟨_, rfl, hline⟩ := fits_seq_char_iff.1 (fits_seq_seq_iff.1 hnewline)
  obtain ⟨w, v, rfl, -, hselection⟩ := fits_line_iff.1 hline
  have hsplit : x ++ u ++ ['\n'] ++ w ++ v = a ++ (startMark ++ b ++ stopMark ++ c) := by
    simpa [tag_eq] using htext
  obtain ⟨rfl, -⟩ := of_fits_selection hd hsplit hselection
  exact ha (by simp)

end Lines

section Ends

variable {a b c : Text}

theorem takes_wholeText (hd : Unmarked (a ++ b ++ c)) :
    Takes wholeText .empty [] (tag (ofThree a b c)) []
      [⟨3, a ++ startMark ++ b ++ [stopBase] ++ [selector], c⟩, ⟨2, a ++ startMark, b⟩,
        ⟨1, [], a⟩] := by
  have hend : Takes (.place .lineEnd) .empty (a ++ startMark ++ b ++ [stopBase] ++ [selector] ++ c)
      [] [] [] :=
    takes_place rfl
  have hlast := ((takes_rest (hend.fits fits_empty)).group 3).seq hend
  rw [List.append_nil] at hlast
  obtain ⟨hselection, honly⟩ := takes_selection_rest (some 2) hd (takes_afterStop hlast)
  have hbefore : Takes (.group 1 (run anything)) _ [] a (startMark ++ b ++ stopMark ++ c ++ [])
      [⟨1, [], a⟩] :=
    (takes_star_of_only (fun c _ => anything_eq_true c) (by rwa [List.append_nil])).group 1
  have hrest := hbefore.seq hselection
  have hall : Takes wholeText .empty [] ([] ++ (a ++ (startMark ++ b ++ stopMark ++ c))) [] _ :=
    (takes_place rfl).seq hrest
  rw [tag_eq]
  exact hall

theorem replace?_moveToTop (hd : Unmarked (a ++ b ++ c)) :
    replace? "move to top" (ofThree a b c) = leaves (ofThree [] [] (a ++ b ++ c)) := by
  refine reads_moveToTop.replace?_of_takes_all (takes_wholeText hd) rfl ?_ (by simpa using hd)
  simp [fill, caretPieces, tag_eq, startMark, stopMark]

theorem replace?_moveToBottom (hd : Unmarked (a ++ b ++ c)) :
    replace? "move to bottom" (ofThree a b c) = leaves (ofThree (a ++ b ++ c) [] []) := by
  refine reads_moveToBottom.replace?_of_takes_all (takes_wholeText hd) rfl ?_ (by simpa using hd)
  simp [fill, caretPieces, tag_eq, startMark, stopMark]

end Ends

section Caret

def toLastLine (t : Text) : Text := t.rdropWhile (· != '\n')

def firstLine (t : Text) : Text := t.takeWhile (· != '\n')

def caretAt (d : Document) (i : Nat) : Document := ⟨d.buffer, .caret i⟩

def atLineStart (d : Document) : Document := caretAt d (toLastLine d.before).size

def atLineEnd (d : Document) : Document :=
  caretAt d (d.before ++ d.selected ++ firstLine d.after).size

/-- At the start of the line before the selection's first one. -/
def atLineAbove (d : Document) : Document :=
  if '\n' ∈ d.before then caretAt d (toLastLine (toLastLine d.before).dropLast).size else d

/-- At the start of the line after the selection's last one. -/
def atLineBelow (d : Document) : Document :=
  if '\n' ∈ d.after then caretAt d (d.before ++ d.selected ++ firstLine d.after ++ ['\n']).size
    else d

theorem exists_line_above {t : Text} (ht : '\n' ∈ t) :
    ∃ pre line post, t = pre ++ line ++ '\n' :: post ∧ StartsLine pre ∧ '\n' ∉ line ∧ '\n' ∉ post ∧
      pre = toLastLine (toLastLine t).dropLast := by
  have hsplit := List.rdropWhile_append_rtakeWhile (p := (· != '\n')) (l := t)
  have hlast := notMem_rtakeWhile t
  obtain hnil | ⟨s, hs⟩ := startsLine_rdropWhile t
  · rw [hnil, List.nil_append] at hsplit
    rw [hsplit] at hlast
    exact absurd ht hlast
  · refine ⟨_, _, t.rtakeWhile (· != '\n'), ?_, startsLine_rdropWhile s, notMem_rtakeWhile s, hlast,
      ?_⟩
    · rw [List.rdropWhile_append_rtakeWhile, List.append_cons, ← hs, hsplit]
    · rw [toLastLine, toLastLine, hs, List.dropLast_concat]

/-- The rules that move the caret leave the text as it is and find nothing wrong with the markers.
-/
theorem moves_leave_text (d : Document) (hd : Unmarked d.buffer) (hs : d.selection.Valid d.buffer) :
    replace? "move to start( of line)?" d = leaves (atLineStart d) ∧
    replace? "move to end( of line)?" d = leaves (atLineEnd d) ∧
    replace? "move up" d = leaves (atLineAbove d) ∧
    replace? "move down" d = leaves (atLineBelow d) ∧
    replace? "move to top" d = leaves (caretAt d 0) ∧
    replace? "move to bottom" d = leaves (caretAt d d.buffer.size) := by
  obtain ⟨a, b, c, rfl⟩ := exists_eq_ofThree hs
  have hd : Unmarked (a ++ b ++ c) := hd
  simp only [atLineStart, atLineEnd, atLineAbove, atLineBelow, Document.before_ofThree,
    Document.selected_ofThree, Document.after_ofThree]
  refine ⟨?_, ?_, ?_, ?_, ?_, ?_⟩
  · have hline := List.rdropWhile_append_rtakeWhile (p := (· != '\n')) (l := a)
    have hmoved := replace?_moveToStart (b := b) (c := c) (startsLine_rdropWhile a)
      (notMem_rtakeWhile a) (by rwa [hline])
    rw [hline, ofThree_nil] at hmoved
    rw [hmoved, ← List.append_assoc, ← List.append_assoc, hline]
    rfl
  · have hline := List.takeWhile_append_dropWhile (p := (· != '\n')) (l := c)
    have hmoved := replace?_moveToEnd (a := a) (b := b) (notMem_takeWhile c) (endsLine_dropWhile c)
      (by rwa [hline])
    rw [hline, ofThree_nil] at hmoved
    rw [hmoved, List.append_assoc _ _ (List.dropWhile _ _), hline]
    rfl
  · split
    · next ha =>
      obtain ⟨pre, line, post, rfl, hpre, hline, hpost, hcaret⟩ := exists_line_above ha
      rw [replace?_moveUp hpre hline hpost hd, ofThree_nil, ← hcaret]
      simp [caretAt, ofThree]
    · next ha => rw [replace?_moveUp_of_notMem ha hd]
  · split
    · next hc =>
      obtain ⟨line, post, rfl, hline⟩ := List.eq_append_cons_of_mem hc
      have hfirst : firstLine (line ++ '\n' :: post) = line := Text.takeWhile_ne_append hline post
      rw [replace?_moveDown hline hd, ofThree_nil, hfirst]
      simp [caretAt, ofThree]
    · next hc => rw [replace?_moveDown_of_notMem hc hd]
  · rw [replace?_moveToTop hd, ofThree_nil]
    rfl
  · rw [replace?_moveToBottom hd, ofThree_nil, List.append_nil]
    rfl

theorem moves_leave_text_across_lines :
    let d : Document := ofThree ['a', '\n', 'b', ' '] ['c', '\n', 'é']
      [selector, 'd', '\n', '\n', 'e']
    (Unmarked d.buffer ∧ d.selection.Valid d.buffer) ∧
    replace? "move to start( of line)?" d = leaves ⟨d.buffer, ⟨2, 2⟩⟩ ∧
    replace? "move to end( of line)?" d = leaves ⟨d.buffer, ⟨12, 12⟩⟩ ∧
    replace? "move up" d = leaves ⟨d.buffer, ⟨0, 0⟩⟩ ∧
    replace? "move down" d = leaves ⟨d.buffer, ⟨13, 13⟩⟩ ∧
    replace? "move to top" d = leaves ⟨d.buffer, ⟨0, 0⟩⟩ ∧
    replace? "move to bottom" d = leaves ⟨d.buffer, ⟨15, 15⟩⟩ := by
  intro d
  have hd : Unmarked d.buffer := by decide
  have hs : d.selection.Valid d.buffer := Selection.valid_append _ _ _
  have hstart : atLineStart d = ⟨d.buffer, ⟨2, 2⟩⟩ := by decide
  have hend : atLineEnd d = ⟨d.buffer, ⟨12, 12⟩⟩ := by decide
  have habove : atLineAbove d = ⟨d.buffer, ⟨0, 0⟩⟩ := by decide
  have hbelow : atLineBelow d = ⟨d.buffer, ⟨13, 13⟩⟩ := by decide
  have hmoves := moves_leave_text d hd hs
  rw [hstart, hend, habove, hbelow] at hmoves
  exact ⟨⟨hd, hs⟩, hmoves⟩

end Caret

end Dictation.BuiltIn
