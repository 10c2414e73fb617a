import Dictation.Proofs.Marker.Canonical
import Dictation.Proofs.Selection

namespace Dictation.Marker

open Document (ofThree)

def enclosing (a b c : Text) : List Token :=
  a.map .plain ++ .start :: (b.map .plain ++ .stop :: c.map .plain)

section Enclosing

variable (a b c : Text)

@[simp] theorem plainText_enclosing : plainText (enclosing a b c) = a ++ b ++ c := by
  simp [enclosing, Token.plain?]

@[simp] theorem offset?_start_enclosing : offset? .start (enclosing a b c) = some a.size := by
  rw [enclosing, offset?_append_cons (by simp), plainText_map_plain]

@[simp] theorem offset?_stop_enclosing : offset? .stop (enclosing a b c) = some (a ++ b).size := by
  have he : enclosing a b c =
      (a.map .plain ++ .start :: b.map .plain) ++ .stop :: c.map .plain := by
    simp [enclosing]
  rw [he, offset?_append_cons (by simp)]
  simp [Token.plain?]

theorem count_map_plain {k : Token} (hk : k.plain? = none) (t : Text) :
    (t.map Token.plain).count k = 0 := by
  rw [List.count_eq_zero]
  intro h
  obtain ⟨c, -, rfl⟩ := List.mem_map.1 h
  cases hk

@[simp] theorem tokenViolation?_enclosing : tokenViolation? (enclosing a b c) = none := by
  have hstart : (enclosing a b c).count .start = 1 := by
    simp [enclosing, count_map_plain (k := .start) rfl]
  have hstop : (enclosing a b c).count .stop = 1 := by
    simp [enclosing, count_map_plain (k := .stop) rfl]
  simp [tokenViolation?, hstart, hstop]

@[simp] theorem tokenSelection?_enclosing :
    tokenSelection? (enclosing a b c) = some ⟨a.size, (a ++ b).size⟩ := by
  simp only [tokenSelection?, offset?_start_enclosing, offset?_stop_enclosing]
  rw [Selection.between_of_le (by simp)]

variable {a b c} {t : Text}

theorem untag?_of_tokens (h : tokens t = enclosing a b c) : untag? t = some (ofThree a b c) := by
  rw [untag?, strip, h, tokenSelection?_enclosing, plainText_enclosing, Option.map_some,
    Document.ofParts, Selection.clampTo_of_valid (Selection.valid_append a b c), ofThree]

theorem tag_ofThree : tag (ofThree a b c) = a ++ startMark ++ b ++ stopMark ++ c := by
  simp only [tag, Document.before_ofThree, Document.selected_ofThree, Document.after_ofThree]

theorem flatMap_map_plain (t : Text) : (t.map Token.plain).flatMap Token.toText = t := by
  induction t with
  | nil => rfl
  | cons c t ih => simpa [Token.toText] using ih

theorem canonical_of_unmarked (ht : Unmarked t) : canonical t = t := by
  rw [canonical_eq_flatMap, tokens_of_unmarked ht, flatMap_map_plain]

theorem canonical_of_tokens (h : tokens t = enclosing a b c) :
    canonical t = tag (ofThree a b c) := by
  rw [canonical_eq_flatMap, h, tag_ofThree]
  simp only [enclosing, List.flatMap_append, List.flatMap_cons, flatMap_map_plain, Token.toText,
    List.append_assoc]

end Enclosing

section Tag

theorem tokens_startMark_append (t : Text) : tokens (startMark ++ t) = .start :: tokens t := by
  rfl

theorem tokens_stopMark_append (t : Text) : tokens (stopMark ++ t) = .stop :: tokens t := by
  rfl

/-- The markers that are put in take their own selectors along; a selector at the start of what
follows stays. -/
theorem tokens_tag {d : Document} (hd : Unmarked d.buffer) :
    tokens (tag d) = enclosing d.before d.selected d.after := by
  rw [Document.buffer_eq_append, unmarked_append, unmarked_append] at hd
  obtain ⟨⟨ha, hb⟩, hc⟩ := hd
  simp only [tag, List.append_assoc]
  rw [tokens_unmarked_append ha, tokens_startMark_append, tokens_unmarked_append hb,
    tokens_stopMark_append, tokens_of_unmarked hc, enclosing]

theorem recover_tag {a b c : Text} (hd : Unmarked (a ++ b ++ c)) (line : Nat) :
    recover (tag (ofThree a b c)) line = ⟨ofThree a b c, none⟩ := by
  have htokens := tokens_tag (d := ofThree a b c) hd
  simp only [Document.before_ofThree, Document.selected_ofThree, Document.after_ofThree] at htokens
  rw [recover, untag?_of_tokens htokens, violation?, htokens, tokenViolation?_enclosing]
  rfl

end Tag

section Canonical

theorem unmarked_dropSelector {t : Text} (ht : Unmarked t) : Unmarked (dropSelector t) := by
  cases t with
  | nil => exact ht
  | cons c t =>
    rw [dropSelector]
    split_ifs
    · exact (unmarked_cons.1 ht).2
    · exact ht

theorem dropSelector_append_stop (s t : Text) :
    dropSelector (s ++ stopBase :: t) = dropSelector s ++ stopBase :: t := by
  cases s with
  | nil => rfl
  | cons c s =>
    simp only [List.cons_append, dropSelector]
    split_ifs <;> rfl

theorem tokens_marked {a b c : Text} (ha : Unmarked a) (hb : Unmarked b) (hc : Unmarked c) :
    tokens (a ++ startBase :: (b ++ stopBase :: c)) =
      enclosing a (dropSelector b) (dropSelector c) := by
  rw [tokens_unmarked_append ha, tokens_cons_base (.inl rfl), dropSelector_append_stop,
    tokens_unmarked_append (unmarked_dropSelector hb), tokens_cons_base (.inr rfl),
    tokens_of_unmarked (unmarked_dropSelector hc)]
  rfl

theorem exists_marked {t : Text} (hstart : t.count startBase = 1) (hstop : t.count stopBase = 1)
    (horder : t.idxOf startBase < t.idxOf stopBase) (hcaret : caretSymbol ∉ t) :
    ∃ a b c, t = a ++ startBase :: (b ++ stopBase :: c) ∧ Unmarked a ∧ Unmarked b ∧ Unmarked c := by
  have hne : stopBase ≠ startBase := by decide
  obtain ⟨a, r, rfl, ha⟩ := List.eq_append_cons_of_mem (List.count_pos_iff.1 (hstart ▸ Nat.one_pos))
  have ha' : stopBase ∉ a := by
    intro h
    rw [List.idxOf_append_of_mem h, List.idxOf_append_of_notMem ha] at horder
    have := List.idxOf_lt_length_of_mem h
    omega
  have hr : stopBase ∈ r := by
    have h := List.count_pos_iff.1 (hstop ▸ Nat.one_pos)
    simpa [ha', hne] using h
  obtain ⟨b, c, rfl, hb⟩ := List.eq_append_cons_of_mem hr
  -- One marker of each kind is spent, so none is left in the parts.
  simp only [List.count_append, List.count_cons_self, List.count_cons_of_ne hne,
    List.count_cons_of_ne hne.symm, List.count_eq_zero.2 ha, List.count_eq_zero.2 ha',
    List.count_eq_zero.2 hb] at hstart hstop
  have hb' : startBase ∉ b := List.count_eq_zero.1 (by omega)
  have hc : startBase ∉ c := List.count_eq_zero.1 (by omega)
  have hc' : stopBase ∉ c := List.count_eq_zero.1 (by omega)
  simp only [List.mem_append, List.mem_cons, not_or] at hcaret
  exact ⟨a, b, c, rfl, ⟨ha, ha', hcaret.1⟩, ⟨hb', hb, hcaret.2.2.1⟩, ⟨hc, hc', hcaret.2.2.2.2⟩⟩

end Canonical

/-- Reading a tagged document gives the document with its selection clamped, and finds nothing
wrong; tagging the document that a text with one marked selection stands for gives the text with its
markers in canonical form. -/
theorem tag_untag :
    (∀ d : Document, Unmarked d.buffer →
      violation? (tag d) = none ∧ untag? (tag d) = some (.ofParts d.buffer d.selection) ∧
        ∀ line, (recover (tag d) line).document = .ofParts d.buffer d.selection) ∧
    ∀ t : Text, t.count startBase = 1 → t.count stopBase = 1 → t.idxOf startBase < t.idxOf stopBase
      → caretSymbol ∉ t → (untag? t).map tag = some (canonical t) := by
  constructor
  · intro d hd
    have ht := tokens_tag hd
    have hu : untag? (tag d) = some (.ofParts d.buffer d.selection) := by
      rw [untag?_of_tokens ht, Document.ofParts_eq_ofThree]
    refine ⟨?_, hu, fun line => ?_⟩
    · rw [violation?, ht, tokenViolation?_enclosing]
    · rw [recover, hu]
      rfl
  · intro t hstart hstop horder hcaret
    obtain ⟨a, b, c, rfl, ha, hb, hc⟩ := exists_marked hstart hstop horder hcaret
    have ht := tokens_marked ha hb hc
    rw [untag?_of_tokens ht, canonical_of_tokens ht, Option.map_some]

theorem tag_untag_at_selectors :
    let d : Document := ⟨['é', selector], ⟨5, 1⟩⟩
    let t : Text := ['a', startBase, 'b', stopBase, selector, selector]
    (Unmarked d.buffer ∧ violation? (tag d) = none ∧
      untag? (tag d) = some ⟨['é', selector], ⟨0, 5⟩⟩ ∧
      (recover (tag d) 3).document = ⟨['é', selector], ⟨0, 5⟩⟩) ∧
    (t.count startBase = 1 ∧ t.count stopBase = 1 ∧ t.idxOf startBase < t.idxOf stopBase ∧
      caretSymbol ∉ t) ∧
    (untag? t).map tag = some ['a', startBase, selector, 'b', stopBase, selector, selector] := by
  intro d t
  have hd : Unmarked d.buffer := by decide
  have hparts : Document.ofParts d.buffer d.selection = ⟨['é', selector], ⟨0, 5⟩⟩ := by decide
  obtain ⟨hv, hu, hr⟩ := tag_untag.1 d hd
  have ht : t.count startBase = 1 ∧ t.count stopBase = 1 ∧ t.idxOf startBase < t.idxOf stopBase ∧
      caretSymbol ∉ t := by decide
  have hc : canonical t = ['a', startBase, selector, 'b', stopBase, selector, selector] := by decide
  rw [hparts] at hu hr
  exact ⟨⟨hd, hv, hu, hr 3⟩, ht, hc ▸ tag_untag.2 t ht.1 ht.2.1 ht.2.2.1 ht.2.2.2⟩

end Dictation.Marker
