import Dictation.Proofs.Marker.Parking

namespace Dictation.Marker

variable {t a : Text} {d : Document} {c : Char}

/-- How many bytes of a text are symbols. -/
def symbolBytes (t : Text) : Nat := t.size - (strip t).size

theorem symbolBytes_of_unmarked (ht : Unmarked t) : symbolBytes t = 0 := by
  rw [symbolBytes, strip_of_unmarked ht, Nat.sub_self]

section Prefix

theorem exists_ordinaryAfter_append (previous : Option Char) (a t : Text) :
    ∃ r, ordinaryAfter previous (a ++ t) = ordinaryAfter previous a ++ r := by
  induction a generalizing previous with
  | nil => exact ⟨ordinaryAfter previous t, rfl⟩
  | cons c a ih =>
    obtain ⟨r, hr⟩ := ih (some c)
    refine ⟨r, ?_⟩
    rw [List.cons_append, ordinaryAfter, ordinaryAfter, hr]
    split_ifs <;> rfl

theorem exists_strip_append (a t : Text) : ∃ r, strip (a ++ t) = strip a ++ r := by
  rw [strip_eq_ordinary, strip_eq_ordinary]
  exact exists_ordinaryAfter_append none a t

theorem size_ordinaryAfter_le (previous : Option Char) (t : Text) :
    (ordinaryAfter previous t).size ≤ t.size := by
  induction t generalizing previous with
  | nil => exact Nat.le_refl 0
  | cons c t ih =>
    have hle := ih (some c)
    rw [ordinaryAfter, Text.size_cons]
    split_ifs
    · omega
    · rw [Text.size_cons]
      omega

theorem size_strip_le (t : Text) : (strip t).size ≤ t.size := by
  rw [strip_eq_ordinary]
  exact size_ordinaryAfter_le none t

end Prefix

section Park

/-- The caret symbol goes behind the ordinary text before the selection, and behind as much of what
follows as fits into the bytes of the symbols before the selection. -/
theorem park_of_strip {r : Text} (hd : d.selection.start ≤ d.selection.stop)
    (hstart : a.size = d.selection.start) (hr : strip d.buffer = strip a ++ r) :
    park d = strip a ++ r.upTo (symbolBytes a) ++ caretSymbol :: r.beyond (symbolBytes a) := by
  rw [park, hr, Selection.start_clampTo_of_le hd, Text.upTo_floor, Text.beyond_floor, ← hstart,
    Text.upTo_append_of_le (size_strip_le a), Text.beyond_append_of_le (size_strip_le a),
      symbolBytes]

/-- What becomes of the caret of a stored document. It is put, and found again, behind the ordinary
text before the selection and a part of what follows, the longest one that fits into the bytes of
the symbols before the selection. So it stays in its place just when nothing ordinary follows or the
first character of it takes more bytes than they do, and always when there are none. -/
theorem park_displaced (hv : d.selection.Valid d.buffer) :
    let before := d.buffer.upTo d.selection.start
    ∃ passed rest,
      strip d.buffer = strip before ++ (passed ++ rest) ∧
        park d = strip before ++ passed ++ caretSymbol :: rest ∧
      unpark (park d) = ⟨strip d.buffer, .caret (strip before ++ passed).size⟩ ∧
      passed.size ≤ symbolBytes before ∧
      (∀ c, rest.head? = some c → symbolBytes before < passed.size + c.utf8Size) ∧
      ((park d).takeWhile (· ≠ caretSymbol) = strip before ↔
        ∀ c, (passed ++ rest).head? = some c → symbolBytes before < c.utf8Size) ∧
      (Unmarked before → passed = []) := by
  intro before
  have hstart : before.size = d.selection.start :=
    (Text.size_upTo _ _).trans (Text.floor_of_isBoundary hv.2.1)
  obtain ⟨r, hr⟩ : ∃ r, strip d.buffer = strip before ++ r := by
    obtain ⟨r, hr⟩ := exists_strip_append before (d.buffer.beyond d.selection.start)
    rw [Text.upTo_append_beyond] at hr
    exact ⟨r, hr⟩
  let passed := r.upTo (symbolBytes before)
  let rest := r.beyond (symbolBytes before)
  have hcut : passed ++ rest = r := r.upTo_append_beyond _
  have hpark : park d = strip before ++ passed ++ caretSymbol :: rest :=
    park_of_strip hv.1 hstart hr
  have hbuffer : strip d.buffer = strip before ++ passed ++ rest := by
    rw [hr, List.append_assoc, hcut]
  have hunmarked : Unmarked (strip before ++ passed) ∧ Unmarked rest := by
    rw [← unmarked_append, ← hbuffer]
    exact unmarked_strip d.buffer
  have hnone : passed = [] ↔ ∀ c, r.head? = some c → symbolBytes before < c.utf8Size :=
    Text.upTo_eq_nil_iff
  refine ⟨passed, rest, by rw [hcut, hr], hpark, ?_, r.size_upTo_le _, ?_, ?_, ?_⟩
  · rw [hpark, unpark_append_cons hunmarked.1, ordinary_of_unmarked hunmarked.2, hbuffer]
  · exact fun c => Text.lt_of_head?_beyond
  · rw [hpark, takeWhile_ne_append_cons hunmarked.1.2.2, List.append_right_eq_self, hnone, hcut]
  · intro hb
    rw [hnone, symbolBytes_of_unmarked hb]
    exact fun c _ => c.utf8Size_pos

theorem park_displaced_before_large :
    let d : Document := ⟨['a', caretSymbol, '😀', 'b'], .caret 4⟩
    d.selection.Valid d.buffer ∧ ∃ passed rest, park d = ['a'] ++ passed ++ caretSymbol :: rest ∧
      passed ++ rest = ['😀', 'b'] ∧ (park d).takeWhile (· ≠ caretSymbol) = ['a'] := by
  intro d
  have hv : d.selection.Valid d.buffer :=
    Selection.valid_caret ⟨['a', caretSymbol], ['😀', 'b'], rfl, by decide⟩
  obtain ⟨passed, rest, hbuffer, hpark, -, -, -, hplace, -⟩ := park_displaced hv
  have hstrip : strip d.buffer = ['a'] ++ ['😀', 'b'] := by decide
  have hrest : passed ++ rest = ['😀', 'b'] := List.append_cancel_left (hbuffer.symm.trans hstrip)
  refine ⟨hv, passed, rest, hpark, hrest, hplace.2 fun c hc => ?_⟩
  rw [hrest] at hc
  obtain rfl := Option.some.inj hc
  decide

/-- The bytes of a marker before the caret move it on over the text that follows. -/
theorem not_park_keeps_place :
    ¬∀ d : Document, d.selection.Valid d.buffer →
      (park d).takeWhile (· ≠ caretSymbol) = strip (d.buffer.upTo d.selection.start) := by
  intro h
  let d : Document := ⟨startMark ++ ['b', 'c'], .caret startMark.size⟩
  have hv : d.selection.Valid d.buffer := Selection.valid_caret (.append startMark ['b', 'c'])
  exact absurd (h d hv) (by decide)

end Park

end Dictation.Marker
