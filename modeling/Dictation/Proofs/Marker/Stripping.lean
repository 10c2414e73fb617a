import Dictation.Proofs.Marker.Tokens

namespace Dictation.Marker

variable {c : Char}

def IsMarker (c : Char) : Prop := c = startBase ∨ c = stopBase

instance (c : Char) : Decidable (IsMarker c) := inferInstanceAs (Decidable (_ ∨ _))

/-- Whether a character belongs to a marker or is a caret symbol, given the character before it. -/
def IsSymbol (previous : Option Char) (c : Char) : Prop :=
  IsMarker c ∨ c = caretSymbol ∨ c = selector ∧ previous.any fun p => decide (IsMarker p)

instance (previous : Option Char) (c : Char) : Decidable (IsSymbol previous c) :=
  inferInstanceAs (Decidable (_ ∨ _ ∨ _ ∧ _))

/-- The characters of a text that are no symbols, where another character may stand before the text.
-/
def ordinaryAfter : Option Char → Text → Text
  | _, [] => []
  | previous, c :: t =>
    if IsSymbol previous c then ordinaryAfter (some c) t
    else c :: ordinaryAfter (some c) t

/-- A text without markers, the selector directly after a marker, and caret symbols. -/
def ordinary (t : Text) : Text := ordinaryAfter none t

section Tokens

theorem tokens_cons_of_not_isMarker (h : ¬IsMarker c) (t : Text) :
    tokens (c :: t) = .ofChar c :: tokens t :=
  tokens_cons_of_ne (fun hc => h (.inl hc)) (fun hc => h (.inr hc)) t

@[elab_as_elim]
theorem induction_on_markers {motive : Text → Prop} (nil : motive [])
    (marker : ∀ c t, IsMarker c → motive (dropSelector t) → motive (c :: t))
    (other : ∀ c t, ¬IsMarker c → motive t → motive (c :: t)) (t : Text) : motive t := by
  fun_induction tokens t with
  | case1 => exact nil
  | case2 c =>
    by_cases hc : IsMarker c
    · exact marker c [] hc nil
    · exact other c [] hc nil
  | case3 c d t h ih =>
    rw [h.2]
    exact marker c (selector :: t) h.1 (by rwa [dropSelector, if_pos rfl])
  | case4 c d t h ih =>
    by_cases hc : IsMarker c
    · exact marker c (d :: t) hc (by rwa [dropSelector, if_neg fun hd => h ⟨hc, hd⟩])
    · exact other c (d :: t) hc ih

theorem tokens_append_cons (s : Text) (hc : c ≠ selector) (t : Text) :
    tokens (s ++ c :: t) = tokens s ++ tokens (c :: t) := by
  fun_induction tokens s with
  | case1 => rfl
  | case2 d => simp [tokens, hc]
  | case3 d e s h ih => simp only [List.cons_append, tokens, h, and_self, if_true, ih]
  | case4 d e s h ih =>
    simpa only [List.cons_append, tokens, h, if_false, List.cons.injEq, true_and] using ih

theorem strip_append_cons (s : Text) (hc : c ≠ selector) (t : Text) :
    strip (s ++ c :: t) = strip s ++ strip (c :: t) := by
  simp only [strip, tokens_append_cons s hc t, plainText_append]

theorem ofChar_injective : Function.Injective Token.ofChar := by
  intro c d h
  unfold Token.ofChar at h
  split_ifs at h <;> simp_all

theorem count_tokens (hc : c ≠ selector) (t : Text) : (tokens t).count (.ofChar c) = t.count c := by
  have hinj (d : Char) : Token.ofChar d = .ofChar c ↔ d = c := ofChar_injective.eq_iff
  fun_induction tokens t with
  | case1 => rfl
  | case2 d => simp [List.count_singleton, hinj]
  | case3 d e t h ih =>
    rw [h.2, List.count_cons, ih]
    simp [List.count_cons, hinj, hc.symm]
  | case4 d e t h ih =>
    rw [List.count_cons (b := Token.ofChar d), List.count_cons (b := d), ih]
    simp only [beq_iff_eq, hinj]

theorem mem_tokens (hc : c ≠ selector) (t : Text) : .ofChar c ∈ tokens t ↔ c ∈ t := by
  rw [← List.count_pos_iff, count_tokens hc, List.count_pos_iff]

theorem offset?_tokens_of_mem (hc : c ≠ selector) {t : Text} (h : c ∈ t) :
    offset? (.ofChar c) (tokens t) = some (strip (t.takeWhile (· ≠ c))).size := by
  obtain ⟨a, b, rfl, ha⟩ := List.eq_append_cons_of_mem h
  have hb : ∃ ts, tokens (c :: b) = .ofChar c :: ts := by
    by_cases hbase : IsMarker c
    · exact ⟨_, tokens_cons_base hbase b⟩
    · exact ⟨_, tokens_cons_of_not_isMarker hbase b⟩
  obtain ⟨ts, hts⟩ := hb
  rw [tokens_append_cons a hc b, hts, offset?_append_cons (mt (mem_tokens hc a).1 ha),
    takeWhile_ne_append_cons ha, strip]

theorem offset?_tokens_of_notMem (hc : c ≠ selector) {t : Text} (h : c ∉ t) :
    offset? (.ofChar c) (tokens t) = none := offset?_of_notMem (mt (mem_tokens hc t).1 h)

end Tokens

section Ordinary

theorem plain?_ofChar_of_isMarker (h : IsMarker c) : (Token.ofChar c).plain? = none := by
  rcases h with rfl | rfl <;> rfl

theorem plain?_ofChar_of_not_isMarker (h : ¬IsMarker c) :
    (Token.ofChar c).plain? = if c = caretSymbol then none else some c := by
  simp only [IsMarker, not_or] at h
  rw [Token.ofChar, if_neg h.1, if_neg h.2]
  split_ifs <;> rfl

theorem ordinaryAfter_of_not_isMarker (h : ¬IsMarker c) (t : Text) :
    ordinaryAfter (some c) t = ordinary t := by
  cases t with
  | nil => rfl
  | cons d t => simp [ordinary, ordinaryAfter, IsSymbol, h]

theorem ordinaryAfter_of_isMarker (h : IsMarker c) (t : Text) :
    ordinaryAfter (some c) t = ordinary (dropSelector t) := by
  cases t with
  | nil => rfl
  | cons d t =>
    by_cases hd : d = selector
    · subst hd
      have hs : IsSymbol (some c) selector := .inr (.inr ⟨rfl, by simpa using h⟩)
      rw [ordinaryAfter, if_pos hs, dropSelector, if_pos rfl]
      exact ordinaryAfter_of_not_isMarker (by decide) t
    · simp [ordinary, ordinaryAfter, dropSelector, IsSymbol, hd]

theorem ordinary_cons_of_isMarker (h : IsMarker c) (t : Text) :
    ordinary (c :: t) = ordinary (dropSelector t) := by
  rw [ordinary, ordinaryAfter, if_pos (.inl h), ordinaryAfter_of_isMarker h]

theorem ordinary_cons_of_not_isMarker (h : ¬IsMarker c) (t : Text) :
    ordinary (c :: t) = (Token.ofChar c).plain?.toList ++ ordinary t := by
  rw [ordinary, ordinaryAfter, ordinaryAfter_of_not_isMarker h]
  have hs : IsSymbol none c ↔ c = caretSymbol := by simp [IsSymbol, h]
  rw [plain?_ofChar_of_not_isMarker h]
  simp only [hs]
  split_ifs <;> rfl

/-- Stripping removes the symbols and nothing else. -/
theorem strip_eq_ordinary (t : Text) : strip t = ordinary t := by
  rw [strip]
  induction t using induction_on_markers with
  | nil => rfl
  | marker c t hc ih =>
    rw [tokens_cons_base hc, plainText_cons, ih, plain?_ofChar_of_isMarker hc,
      ordinary_cons_of_isMarker hc]
    rfl
  | other c t hc ih =>
    rw [tokens_cons_of_not_isMarker hc, plainText_cons, ih, ordinary_cons_of_not_isMarker hc]

end Ordinary

end Dictation.Marker
