import Dictation.Proofs.Marker.Recovery

namespace Dictation.Marker

variable {t a : Text} {d : Document}

theorem ordinary_of_unmarked (ht : Unmarked t) : ordinary t = t := by
  rw [← strip_eq_ordinary, strip_of_unmarked ht]

theorem ordinary_cons_caretSymbol (t : Text) : ordinary (caretSymbol :: t) = ordinary t := by
  rw [ordinary_cons_of_not_isMarker (by decide)]
  rfl

/-- Where the caret of a stored text stands among its ordinary characters. -/
def parkedPlace (t : Text) : Nat := if caretSymbol ∈ t then placeOf caretSymbol t
    else (ordinary t).size

theorem isBoundary_parkedPlace (t : Text) : (ordinary t).IsBoundary (parkedPlace t) := by
  rw [parkedPlace]
  split_ifs with h
  · exact isBoundary_placeOf (by decide) h
  · exact ⟨ordinary t, [], by simp, rfl⟩

theorem unpark_eq (t : Text) : unpark t = ⟨ordinary t, .caret (parkedPlace t)⟩ := by
  have hvalid := Selection.valid_caret (isBoundary_parkedPlace t)
  rw [parkedPlace] at hvalid ⊢
  rw [unpark, strip_eq_ordinary, strip_eq_ordinary]
  split_ifs at hvalid ⊢ with h
  · exact congrArg (Document.mk _) (Selection.clampTo_of_valid hvalid)
  · rfl

theorem valid_unpark (t : Text) : (unpark t).selection.Valid (unpark t).buffer := by
  rw [unpark_eq]
  exact Selection.valid_caret (isBoundary_parkedPlace t)

theorem unmarked_unpark (t : Text) : Unmarked (unpark t).buffer := by
  rw [unpark_eq]
  exact unmarked_ordinary t

theorem unpark_append_cons (ha : Unmarked a) (b : Text) :
    unpark (a ++ caretSymbol :: b) = ⟨a ++ ordinary b, .caret a.size⟩ := by
  have hcaret : caretSymbol ∈ a ++ caretSymbol :: b := by simp
  rw [unpark_eq, parkedPlace, if_pos hcaret, placeOf_append_cons ha.2.2,
    ordinary_append_cons a (by decide), ordinary_cons_caretSymbol, ordinary_of_unmarked ha]

/-- A document without markers is stored with the caret symbol where its selection starts. -/
theorem unpark_park (hd : Unmarked d.buffer) :
    unpark (park d) = ⟨d.buffer, .caret d.clamped.start⟩ := by
  have hparts : d.before ++ d.buffer.beyond d.clamped.start = d.buffer :=
    d.buffer.upTo_append_beyond d.clamped.start
  have hpark : park d = d.before ++ caretSymbol :: d.buffer.beyond d.clamped.start := by
    rw [park, strip_of_unmarked hd]
    rfl
  rw [← hparts, unmarked_append] at hd
  rw [hpark, unpark_append_cons hd.1, ordinary_of_unmarked hd.2, hparts, Document.size_before]

theorem unpark_park_of_caret (hd : Unmarked d.buffer) (hv : d.selection.Valid d.buffer)
    (hc : d.selection.isCaret = true) : unpark (park d) = d := by
  rw [unpark_park hd, Document.clamped, Selection.clampTo_of_valid hv]
  obtain ⟨buffer, start, stop⟩ := d
  obtain rfl : start = stop := by simpa [Selection.isCaret] using hc
  rfl

theorem unpark_park_unpark (t : Text) : unpark (park (unpark t)) = unpark t := by
  apply unpark_park_of_caret (unmarked_unpark t) (valid_unpark t)
  rw [unpark_eq]
  exact beq_self_eq_true _

end Dictation.Marker
