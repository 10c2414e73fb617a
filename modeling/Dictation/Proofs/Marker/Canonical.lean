import Dictation.Proofs.Marker.Stripping
import Dictation.Proofs.Text.Replace

namespace Dictation.Marker

variable {base c : Char} {t : Text}

def Token.toText : Token → Text
  | .start => startMark
  | .stop => stopMark
  | .caret => [caretSymbol]
  | .plain c => [c]

section Respell

def respell (base : Char) (t : Text) : Text :=
  Text.replaceEach [base] [base, selector] (Text.replaceEach [base, selector] [base] t)

theorem canonical_eq_respell (t : Text) : canonical t = respell stopBase (respell startBase t) :=
  rfl

theorem respell_cons_of_ne (hc : c ≠ base) (t : Text) :
    respell base (c :: t) = c :: respell base t := by
  have hnot (old : Text) (t : Text) : ¬base :: old <+: c :: t := fun h =>
    hc (List.cons_prefix_cons.1 h).1.symm
  rw [respell, Text.replaceEach_cons (hnot _ t), Text.replaceEach_cons (hnot _ _), respell]

theorem respell_cons_base (base : Char) (t : Text) :
    respell base (base :: t) = base :: selector :: respell base (dropSelector t) := by
  -- whether or not the marker had a selector, it has none between the two replacements
  have hbare : Text.replaceEach [base, selector] [base] (base :: t) =
      [base] ++ Text.replaceEach [base, selector] [base] (dropSelector t) := by
    cases t with
    | nil => exact Text.replaceEach_cons (by simp)
    | cons d t =>
      rw [dropSelector]
      split_ifs with hd
      · have hne : [base, selector] ≠ [] := by simp
        rw [hd]
        exact Text.replaceEach_append hne t
      · exact Text.replaceEach_cons (by simp [Ne.symm hd])
  rw [respell, hbare, Text.replaceEach_append (by simp), respell]
  rfl

theorem dropSelector_respell (hbase : base ≠ selector) (t : Text) :
    dropSelector (respell base t) = respell base (dropSelector t) := by
  cases t with
  | nil => rfl
  | cons c t =>
    by_cases hc : c = base
    · subst hc
      simp only [respell_cons_base, dropSelector, if_neg hbase]
    · rw [respell_cons_of_ne hc, dropSelector, dropSelector]
      split_ifs
      · rfl
      · rw [respell_cons_of_ne hc]

end Respell

section Canonical

theorem canonical_nil : canonical [] = [] := rfl

theorem canonical_cons_of_isMarker (h : IsMarker c) (t : Text) :
    canonical (c :: t) = c :: selector :: canonical (dropSelector t) := by
  rw [canonical_eq_respell, canonical_eq_respell]
  rcases h with rfl | rfl
  · rw [respell_cons_base, respell_cons_of_ne (by decide), respell_cons_of_ne (by decide)]
  · rw [respell_cons_of_ne (by decide), respell_cons_base, dropSelector_respell (by decide)]

theorem canonical_cons_of_not_isMarker (h : ¬IsMarker c) (t : Text) :
    canonical (c :: t) = c :: canonical t := by
  rw [IsMarker, not_or] at h
  rw [canonical_eq_respell, respell_cons_of_ne h.1, respell_cons_of_ne h.2, canonical_eq_respell]

theorem toText_ofChar_of_isMarker (h : IsMarker c) : (Token.ofChar c).toText = [c, selector] := by
  rcases h with rfl | rfl <;> rfl

theorem toText_ofChar_of_not_isMarker (h : ¬IsMarker c) : (Token.ofChar c).toText = [c] := by
  rw [IsMarker, not_or] at h
  rw [Token.ofChar, if_neg h.1, if_neg h.2]
  split_ifs with hc
  · rw [hc]
    rfl
  · rfl

theorem canonical_eq_flatMap (t : Text) : canonical t = (tokens t).flatMap Token.toText := by
  induction t using induction_on_markers with
  | nil => rfl
  | marker c t hc ih =>
    rw [canonical_cons_of_isMarker hc, ih, tokens_cons_base hc, List.flatMap_cons,
      toText_ofChar_of_isMarker hc]
    rfl
  | other c t hc ih =>
    rw [canonical_cons_of_not_isMarker hc, ih, tokens_cons_of_not_isMarker hc, List.flatMap_cons,
      toText_ofChar_of_not_isMarker hc]
    rfl

/-- A marker written with its selector takes no other along, so the tokens are those of the text. -/
theorem tokens_canonical (t : Text) : tokens (canonical t) = tokens t := by
  induction t using induction_on_markers with
  | nil => rfl
  | marker c t hc ih =>
    rw [canonical_cons_of_isMarker hc, tokens_cons_base hc, dropSelector, if_pos rfl, ih,
      tokens_cons_base hc]
  | other c t hc ih =>
    rw [canonical_cons_of_not_isMarker hc, tokens_cons_of_not_isMarker hc, ih,
      tokens_cons_of_not_isMarker hc]

theorem canonical_canonical (t : Text) : canonical (canonical t) = canonical t := by
  rw [canonical_eq_flatMap, tokens_canonical, ← canonical_eq_flatMap]

end Canonical

end Dictation.Marker
