import Dictation.Marker
import Mathlib.Data.List.Basic

namespace Dictation.Marker

/-- Holds no marker and no caret symbol. -/
def Unmarked (t : Text) : Prop := startBase ∉ t ∧ stopBase ∉ t ∧ caretSymbol ∉ t

instance (t : Text) : Decidable (Unmarked t) := inferInstanceAs (Decidable (_ ∧ _ ∧ _))

namespace Token

theorem ofChar_eq_plain_iff {c d : Char} :
    ofChar c = .plain d ↔ c = d ∧ c ≠ startBase ∧ c ≠ stopBase ∧ c ≠ caretSymbol := by
  unfold ofChar
  split_ifs <;> simp_all

end Token

@[simp] theorem unmarked_nil : Unmarked [] := by simp [Unmarked]

theorem unmarked_append {s t : Text} : Unmarked (s ++ t) ↔ Unmarked s ∧ Unmarked t := by
  simp only [Unmarked, List.mem_append, not_or]
  tauto

theorem unmarked_append_append {a b c : Text} :
    Unmarked (a ++ b ++ c) ↔ Unmarked a ∧ Unmarked b ∧ Unmarked c := by
  rw [unmarked_append, unmarked_append, and_assoc]

theorem unmarked_cons {c : Char} {t : Text} :
    Unmarked (c :: t) ↔ Token.ofChar c = .plain c ∧ Unmarked t := by
  simp only [Unmarked, Token.ofChar_eq_plain_iff, List.mem_cons, not_or, true_and, ne_eq]
  tauto

section PlainText

@[simp] theorem plainText_append (ts us : List Token) :
    plainText (ts ++ us) = plainText ts ++ plainText us := List.filterMap_append

@[simp] theorem plainText_cons (k : Token) (ts : List Token) :
    plainText (k :: ts) = k.plain?.toList ++ plainText ts := by
  cases h : k.plain? <;> simp [plainText, h]

@[simp] theorem plainText_map_plain (t : Text) : plainText (t.map .plain) = t := by
  induction t with
  | nil => rfl
  | cons c t ih => simp [ih, Token.plain?]

theorem mem_plainText {ts : List Token} {c : Char} : c ∈ plainText ts ↔ .plain c ∈ ts := by
  simp only [plainText, List.mem_filterMap]
  constructor
  · rintro ⟨k, hk, hc⟩
    cases k with
    | plain d => cases hc; exact hk
    | start | stop | caret => cases hc
  · intro h
    exact ⟨.plain c, h, rfl⟩

end PlainText

section Tokens

def dropSelector : Text → Text
  | [] => []
  | c :: t => if c = selector then t else c :: t

theorem tokens_cons_of_ne {c : Char} (h : c ≠ startBase) (h' : c ≠ stopBase) (t : Text) :
    tokens (c :: t) = .ofChar c :: tokens t := by
  cases t with
  | nil => rfl
  | cons d t => simp [tokens, h, h']

theorem tokens_cons_base {c : Char} (h : c = startBase ∨ c = stopBase) (t : Text) :
    tokens (c :: t) = .ofChar c :: tokens (dropSelector t) := by
  cases t with
  | nil => rfl
  | cons d t => by_cases hd : d = selector <;> simp [tokens, dropSelector, h, hd]

theorem tokens_unmarked_append {s : Text} (hs : Unmarked s) (t : Text) :
    tokens (s ++ t) = s.map .plain ++ tokens t := by
  induction s with
  | nil => rfl
  | cons c s ih =>
    obtain ⟨hc, hs⟩ := unmarked_cons.1 hs
    obtain ⟨-, hstart, hstop, -⟩ := Token.ofChar_eq_plain_iff.1 hc
    rw [List.cons_append, tokens_cons_of_ne hstart hstop, hc, ih hs]
    rfl

theorem tokens_of_unmarked {t : Text} (ht : Unmarked t) : tokens t = t.map .plain := by
  simpa [tokens] using tokens_unmarked_append ht []

theorem exists_of_mem_tokens {t : Text} {k : Token} (h : k ∈ tokens t) :
    ∃ c ∈ t, k = .ofChar c := by
  fun_induction tokens t with
  | case1 => cases h
  | case2 c => exact ⟨c, by simp, by simpa using h⟩
  | case3 c d t hm ih =>
    rcases List.mem_cons.1 h with rfl | h
    · exact ⟨c, by simp, rfl⟩
    · obtain ⟨e, he, rfl⟩ := ih h
      exact ⟨e, by simp [he], rfl⟩
  | case4 c d t hm ih =>
    rcases List.mem_cons.1 h with rfl | h
    · exact ⟨c, by simp, rfl⟩
    · obtain ⟨e, he, rfl⟩ := ih h
      exact ⟨e, List.mem_cons_of_mem c he, rfl⟩

end Tokens

section Offset

theorem takeWhile_ne_append_cons {α : Type} [DecidableEq α] {a : α} {l : List α} (h : a ∉ l)
    (r : List α) : (l ++ a :: r).takeWhile (· ≠ a) = l := by
  have hne : ∀ x ∈ l, decide (x ≠ a) = true := fun x hx => decide_eq_true fun he => h (he ▸ hx)
  rw [List.takeWhile_append_of_pos hne]
  simp

theorem offset?_append_cons {k : Token} {ts : List Token} (hk : k ∉ ts) (us : List Token) :
    offset? k (ts ++ k :: us) = some (plainText ts).size := by
  rw [offset?, if_pos (by simp), takeWhile_ne_append_cons hk]

theorem offset?_of_notMem {k : Token} {ts : List Token} (hk : k ∉ ts) : offset? k ts = none :=
  if_neg hk

end Offset

theorem strip_of_unmarked {t : Text} (ht : Unmarked t) : strip t = t := by
  rw [strip, tokens_of_unmarked ht, plainText_map_plain]

theorem unmarked_strip (t : Text) : Unmarked (strip t) := by
  have h : ∀ c ∈ strip t, c ≠ startBase ∧ c ≠ stopBase ∧ c ≠ caretSymbol := by
    intro c hc
    obtain ⟨d, -, hd⟩ := exists_of_mem_tokens (mem_plainText.1 hc)
    obtain ⟨rfl, hne⟩ := Token.ofChar_eq_plain_iff.1 hd.symm
    exact hne
  exact ⟨fun hc => (h _ hc).1 rfl, fun hc => (h _ hc).2.1 rfl, fun hc => (h _ hc).2.2 rfl⟩

@[simp] theorem strip_strip (t : Text) : strip (strip t) = strip t :=
  strip_of_unmarked (unmarked_strip t)

end Dictation.Marker
