import Dictation.Proofs.Marker.RoundTrip
import Dictation.Proofs.Marker.Stripping
import Dictation.Proofs.Text.Lines

namespace Dictation.Marker

variable {t a b : Text} {c p q : Char} {s : Selection}

theorem ordinary_append_cons (a : Text) (hc : c ≠ selector) (b : Text) :
    ordinary (a ++ c :: b) = ordinary a ++ ordinary (c :: b) := by
  simp only [← strip_eq_ordinary, strip_append_cons a hc b]

theorem unmarked_ordinary (t : Text) : Unmarked (ordinary t) :=
  strip_eq_ordinary t ▸ unmarked_strip t

/-- The offset, among the ordinary characters, at which a character first stands. -/
def placeOf (c : Char) (t : Text) : Nat := (ordinary (t.takeWhile (· ≠ c))).size

theorem placeOf_append_cons (ha : c ∉ a) (b : Text) :
    placeOf c (a ++ c :: b) = (ordinary a).size := by
  rw [placeOf, takeWhile_ne_append_cons ha]

theorem isBoundary_placeOf (hc : c ≠ selector) (h : c ∈ t) :
    (ordinary t).IsBoundary (placeOf c t) := by
  obtain ⟨a, b, rfl, ha⟩ := List.eq_append_cons_of_mem h
  rw [placeOf_append_cons ha, ordinary_append_cons a hc b]
  exact .append _ _

section Offset

theorem offset?_start_of_mem (h : startBase ∈ t) :
    offset? .start (tokens t) = some (placeOf startBase t) := by
  rw [placeOf, ← strip_eq_ordinary]
  exact offset?_tokens_of_mem (by decide) h

theorem offset?_stop_of_mem (h : stopBase ∈ t) :
    offset? .stop (tokens t) = some (placeOf stopBase t) := by
  rw [placeOf, ← strip_eq_ordinary]
  exact offset?_tokens_of_mem (by decide) h

theorem offset?_start_of_notMem (h : startBase ∉ t) : offset? .start (tokens t) = none :=
  offset?_tokens_of_notMem (c := startBase) (by decide) h

theorem offset?_stop_of_notMem (h : stopBase ∉ t) : offset? .stop (tokens t) = none :=
  offset?_tokens_of_notMem (c := stopBase) (by decide) h

end Offset

section Selection

variable (line : Nat)

theorem recover_of_some (h : tokenSelection? (tokens t) = some s) (hs : s.Valid (ordinary t)) :
    (recover t line).document = ⟨ordinary t, s⟩ ∧ untag? t = some ⟨ordinary t, s⟩ := by
  have hu : untag? t = some ⟨ordinary t, s⟩ := by
    rw [untag?, h, Option.map_some, strip_eq_ordinary, Document.ofParts,
      Selection.clampTo_of_valid hs]
  exact ⟨by rw [recover, hu]; rfl, hu⟩

theorem recover_of_both (hstart : startBase ∈ t) (hstop : stopBase ∈ t) :
    let d : Document := ⟨ordinary t, .between (placeOf startBase t) (placeOf stopBase t)⟩
    (recover t line).document = d ∧ untag? t = some d := by
  apply recover_of_some
  · simp only [tokenSelection?, offset?_start_of_mem hstart, offset?_stop_of_mem hstop]
  · exact Selection.valid_between
      (isBoundary_placeOf (by decide) hstart) (isBoundary_placeOf (by decide) hstop)

theorem recover_of_start (hstart : startBase ∈ t) (hstop : stopBase ∉ t) :
    let d : Document := ⟨ordinary t, .caret (placeOf startBase t)⟩
    (recover t line).document = d ∧ untag? t = some d := by
  apply recover_of_some
  · simp only [tokenSelection?, offset?_start_of_mem hstart, offset?_stop_of_notMem hstop]
  · exact Selection.valid_caret (isBoundary_placeOf (by decide) hstart)

theorem recover_of_stop (hstart : startBase ∉ t) (hstop : stopBase ∈ t) :
    let d : Document := ⟨ordinary t, .caret (placeOf stopBase t)⟩
    (recover t line).document = d ∧ untag? t = some d := by
  apply recover_of_some
  · simp only [tokenSelection?, offset?_start_of_notMem hstart, offset?_stop_of_mem hstop]
  · exact Selection.valid_caret (isBoundary_placeOf (by decide) hstop)

theorem recover_of_neither (hstart : startBase ∉ t) (hstop : stopBase ∉ t) :
    (recover t line).document = ⟨ordinary t, .caret ((ordinary t).lineStart line)⟩ ∧
      untag? t = none := by
  have hu : untag? t = none := by
    simp only [untag?, tokenSelection?, offset?_start_of_notMem hstart,
      offset?_stop_of_notMem hstop, Option.map_none]
  have hb := ((ordinary t).startsLine_lineStart line).isBoundary
  refine ⟨?_, hu⟩
  rw [recover, hu, strip_eq_ordinary, Option.getD_none, Document.ofParts,
    Selection.clampTo_of_valid (Selection.valid_caret hb)]

theorem buffer_recover (t : Text) : (recover t line).document.buffer = ordinary t := by
  rw [recover, untag?, strip_eq_ordinary]
  cases tokenSelection? (tokens t) <;> rfl

theorem valid_recover (t : Text) (line : Nat) :
    (recover t line).document.selection.Valid (recover t line).document.buffer := by
  rw [recover, untag?]
  cases tokenSelection? (tokens t) <;> exact Document.valid_ofParts _ _

/-- What is read from any text: all that is ordinary, and the selection that the first marker of
each kind gives; one marker is a caret, and without markers the caret stands at the start of the
given line, or of the last. -/
theorem recover_keeps_ordinary (t : Text) (line : Nat) :
    let d := (recover t line).document
    d.buffer = ordinary t ∧ Unmarked d.buffer ∧ d.selection.Valid d.buffer ∧
      (startBase ∈ t → stopBase ∈ t → untag? t = some d ∧ d.selection =
        ⟨min (placeOf startBase t) (placeOf stopBase t),
          max (placeOf startBase t) (placeOf stopBase t)⟩) ∧
      (startBase ∈ t → stopBase ∉ t → untag? t = some d ∧
        d.selection = .caret (placeOf startBase t)) ∧
      (startBase ∉ t → stopBase ∈ t → untag? t = some d ∧
        d.selection = .caret (placeOf stopBase t)) ∧
      (startBase ∉ t → stopBase ∉ t → untag? t = none ∧
        ∃ i, d.selection = .caret i ∧ d.buffer.StartsLine i (min line (d.buffer.count '\n'))) := by
  intro d
  have hbuffer : d.buffer = ordinary t := buffer_recover line t
  refine ⟨hbuffer, hbuffer ▸ unmarked_ordinary t, valid_recover t line, ?_, ?_, ?_, ?_⟩
  · intro hstart hstop
    obtain ⟨hd, hu⟩ := recover_of_both line hstart hstop
    exact ⟨hu.trans (congrArg some hd.symm),
      (congrArg Document.selection hd).trans (Selection.between_eq _ _)⟩
  · intro hstart hstop
    obtain ⟨hd, hu⟩ := recover_of_start line hstart hstop
    exact ⟨hu.trans (congrArg some hd.symm), congrArg Document.selection hd⟩
  · intro hstart hstop
    obtain ⟨hd, hu⟩ := recover_of_stop line hstart hstop
    exact ⟨hu.trans (congrArg some hd.symm), congrArg Document.selection hd⟩
  · intro hstart hstop
    obtain ⟨hd, hu⟩ := recover_of_neither line hstart hstop
    refine ⟨hu, (ordinary t).lineStart line, congrArg Document.selection hd, ?_⟩
    rw [hbuffer]
    exact (ordinary t).startsLine_lineStart line

theorem recover_keeps_ordinary_of_each :
    let t : Text := ['é', stopBase, selector, selector, startBase, caretSymbol, 'b', stopBase,
      startBase]
    let u : Text := [startBase, startBase, selector, 'b']
    let v : Text := ['a', stopBase, 'b']
    let w : Text := ['a', '\n', caretSymbol, 'b', '\n']
    (startBase ∈ t ∧ stopBase ∈ t ∧ untag? t = some ⟨['é', selector, 'b'], ⟨2, 5⟩⟩) ∧
    (startBase ∈ u ∧ stopBase ∉ u ∧ untag? u = some ⟨['b'], .caret 0⟩) ∧
    (startBase ∉ v ∧ stopBase ∈ v ∧ untag? v = some ⟨['a', 'b'], .caret 1⟩) ∧
    startBase ∉ w ∧ stopBase ∉ w ∧ untag? w = none ∧
      ∃ i, (recover w 7).document.selection = .caret i ∧
        Text.StartsLine ['a', '\n', 'b', '\n'] i 2 := by
  intro t u v w
  have ht : startBase ∈ t ∧ stopBase ∈ t := by decide
  have hu : startBase ∈ u ∧ stopBase ∉ u := by decide
  have hv : startBase ∉ v ∧ stopBase ∈ v := by decide
  have hw : startBase ∉ w ∧ stopBase ∉ w := by decide
  have hboth := (recover_keeps_ordinary t 0).2.2.2.1 ht.1 ht.2
  have hone := (recover_keeps_ordinary u 0).2.2.2.2.1 hu.1 hu.2
  have hother := (recover_keeps_ordinary v 0).2.2.2.2.2.1 hv.1 hv.2
  have hnone := (recover_keeps_ordinary w 7).2.2.2.2.2.2 hw.1 hw.2
  exact ⟨⟨ht.1, ht.2, hboth.1⟩, ⟨hu.1, hu.2, hone.1⟩, ⟨hv.1, hv.2, hother.1⟩, hw.1, hw.2, hnone⟩

end Selection

section Violation

theorem exists_order (hp : p ∈ t) (hlt : t.idxOf p < t.idxOf q) (hq : q ∈ t) :
    ∃ a b r, t = a ++ p :: (b ++ q :: r) ∧ p ∉ a ∧ q ∉ a ++ p :: b := by
  obtain ⟨s, r, rfl, hs⟩ := List.eq_append_cons_of_mem hq
  have hps : p ∈ s := by
    by_contra h
    rw [List.idxOf_append_of_notMem h, List.idxOf_append_of_notMem hs, List.idxOf_cons_self] at hlt
    omega
  obtain ⟨a, b, rfl, ha⟩ := List.eq_append_cons_of_mem hps
  exact ⟨a, b, r, by simp, ha, hs⟩

theorem placeOf_of_order (hp : p ≠ selector) (ha : p ∉ a) (hb : q ∉ a ++ p :: b) (r : Text) :
    placeOf p (a ++ p :: (b ++ q :: r)) = (ordinary a).size ∧
      placeOf q (a ++ p :: (b ++ q :: r)) = (ordinary a).size + (ordinary (p :: b)).size := by
  constructor
  · exact placeOf_append_cons ha _
  · have happend : a ++ p :: (b ++ q :: r) = (a ++ p :: b) ++ q :: r := by simp
    rw [happend, placeOf_append_cons hb, ordinary_append_cons a hp b, Text.size_append]

/-- An end marker stands before a start marker, with nothing ordinary between them. -/
def Meets (t : Text) : Prop :=
  ∃ a b r, t = a ++ stopBase :: (b ++ startBase :: r) ∧ ordinary (stopBase :: b) = []

theorem placeOf_le_placeOf_iff (hstart : t.count startBase = 1) (hstop : t.count stopBase = 1) :
    placeOf startBase t ≤ placeOf stopBase t ↔ t.idxOf startBase < t.idxOf stopBase ∨ Meets t := by
  have hmem (c : Char) (hc : t.count c = 1) : c ∈ t := List.count_pos_iff.1 (hc ▸ Nat.one_pos)
  constructor
  · intro hle
    rcases Nat.lt_trichotomy (t.idxOf startBase) (t.idxOf stopBase) with hlt | heq | hgt
    · exact .inl hlt
    · exact absurd ((List.idxOf_inj (hmem _ hstart)).1 heq) (by decide)
    · obtain ⟨a, b, r, rfl, ha, hb⟩ := exists_order (hmem _ hstop) hgt (hmem _ hstart)
      obtain ⟨hi, hj⟩ := placeOf_of_order (by decide) ha hb r
      rw [hi, hj] at hle
      exact .inr ⟨a, b, r, rfl, Text.size_eq_zero.1 (by omega)⟩
  · rintro (hlt | ⟨a, b, r, rfl, hnone⟩)
    · obtain ⟨a, b, r, rfl, ha, hb⟩ := exists_order (hmem _ hstart) hlt (hmem _ hstop)
      obtain ⟨hi, hj⟩ := placeOf_of_order (by decide) ha hb r
      omega
    · -- One marker of each kind is spent, so neither stands earlier.
      have ha : stopBase ∉ a := by
        intro h
        have := List.count_pos_iff.2 h
        simp only [List.count_append, List.count_cons_self] at hstop
        omega
      have hb : startBase ∉ a ++ stopBase :: b := by
        intro h
        have := List.count_pos_iff.2 h
        have happend : a ++ stopBase :: (b ++ startBase :: r) =
            (a ++ stopBase :: b) ++ startBase :: r := by simp
        rw [happend, List.count_append, List.count_cons_self] at hstart
        omega
      obtain ⟨hi, hj⟩ := placeOf_of_order (by decide) ha hb r
      simp [hi, hj, hnone]

theorem count_start_tokens (t : Text) : (tokens t).count .start = t.count startBase :=
  count_tokens (c := startBase) (by decide) t

theorem count_stop_tokens (t : Text) : (tokens t).count .stop = t.count stopBase :=
  count_tokens (c := stopBase) (by decide) t

theorem violation?_of_one (hstart : t.count startBase = 1) (hstop : t.count stopBase = 1) :
    violation? t = if placeOf stopBase t < placeOf startBase t then some .reversed else none := by
  have hmem (c : Char) (hc : t.count c = 1) : c ∈ t := List.count_pos_iff.1 (hc ▸ Nat.one_pos)
  simp only [violation?, tokenViolation?, count_start_tokens, count_stop_tokens, hstart, hstop,
    offset?_start_of_mem (hmem _ hstart), offset?_stop_of_mem (hmem _ hstop)]

theorem violation?_ne_none_of_not_one (h : ¬(t.count startBase = 1 ∧ t.count stopBase = 1)) :
    violation? t ≠ none := by
  rw [violation?, tokenViolation?, count_start_tokens, count_stop_tokens]
  split
  · simp
  · exact absurd ⟨‹_›, ‹_›⟩ h
  · simp

/-- Nothing is found wrong with one start marker and one end marker after it, nor with one after the
other in reverse where nothing ordinary stands between them; with any other markers something is. -/
theorem violation?_eq_none_iff (t : Text) (line : Nat) :
    (recover t line).violation = violation? t ∧
      (violation? t = none ↔ t.count startBase = 1 ∧ t.count stopBase = 1 ∧
        (t.idxOf startBase < t.idxOf stopBase ∨ Meets t)) := by
  refine ⟨rfl, ?_⟩
  by_cases hone : t.count startBase = 1 ∧ t.count stopBase = 1
  · obtain ⟨hstart, hstop⟩ := hone
    rw [violation?_of_one hstart hstop, ← placeOf_le_placeOf_iff hstart hstop]
    simp [hstart, hstop]
  · constructor
    · intro hnone
      exact absurd hnone (violation?_ne_none_of_not_one hone)
    · rintro ⟨hstart, hstop, -⟩
      exact absurd ⟨hstart, hstop⟩ hone

/-- Reversed markers that meet pass for markers in order. -/
theorem not_violation?_reversed :
    ¬∀ (t : Text) (line : Nat),
      (violation? t = none ↔
        t.count startBase = 1 ∧ t.count stopBase = 1 ∧ t.idxOf startBase < t.idxOf stopBase) ∧
      ((recover t line).violation = none ↔
        t.count startBase = 1 ∧ t.count stopBase = 1 ∧ t.idxOf startBase < t.idxOf stopBase) := by
  intro h
  have hnone : violation? (stopMark ++ startMark) = none := by decide
  have horder := ((h (stopMark ++ startMark) 0).1.1 hnone).2.2
  exact absurd horder (by decide)

end Violation

end Dictation.Marker
