import Dictation.Text.Lines
import Mathlib.Data.List.Infix

namespace Dictation.Text

variable {s t r separator : Text} {c : Char}

theorem splitOnce_append (hne : separator ≠ [])
    (h : ∀ u v, s = u ++ v → v ≠ [] → ¬separator <+: v ++ separator ++ t) :
    splitOnce (s ++ separator ++ t) separator = some (s, t) := by
  induction s with
  | nil =>
    obtain ⟨c, r, rfl⟩ := List.exists_cons_of_ne_nil hne
    have hbegins : (c :: r).isPrefixOf (c :: r ++ t) = true :=
      List.isPrefixOf_iff_prefix.2 (List.prefix_append _ t)
    rw [List.nil_append, List.cons_append, splitOnce, ← List.cons_append, if_pos hbegins,
      List.drop_left]
  | cons c s ih =>
    have hnot : ¬separator.isPrefixOf (c :: s ++ separator ++ t) = true := fun hp =>
      h [] (c :: s) rfl (List.cons_ne_nil c s) (List.isPrefixOf_iff_prefix.1 hp)
    rw [List.cons_append, List.cons_append] at hnot ⊢
    rw [splitOnce, if_neg hnot, ih fun u v huv hv => h (c :: u) v (congrArg (c :: ·) huv) hv]
    rfl

theorem splitOnce_append_cons (h : c ∉ s) (t : Text) :
    splitOnce (s ++ c :: t) [c] = some (s, t) := by
  rw [← List.singleton_append, ← List.append_assoc]
  apply splitOnce_append (List.cons_ne_nil c [])
  rintro u v rfl hv hp
  obtain ⟨d, v, rfl⟩ := List.exists_cons_of_ne_nil hv
  obtain rfl : c = d := (List.cons_prefix_cons.1 hp).1
  exact h (List.mem_append_right u List.mem_cons_self)

/-- The parts of a split text, with the separator nowhere in the first. -/
theorem of_splitOnce_eq_some (hne : separator ≠ []) (h : splitOnce t separator = some (s, r)) :
    t = s ++ separator ++ r ∧ ¬separator <:+: s := by
  induction t generalizing s with
  | nil =>
    rw [splitOnce, if_neg (by simpa using hne)] at h
    cases h
  | cons c t ih =>
    rw [splitOnce] at h
    split at h
    · next hp =>
      obtain ⟨rest, hrest⟩ := List.isPrefixOf_iff_prefix.1 hp
      rw [← hrest, List.drop_left] at h
      cases h
      exact ⟨hrest.symm, fun hs => hne (List.infix_nil.1 hs)⟩
    · next hp =>
      obtain ⟨⟨s', r'⟩, hsplit, hsr⟩ := Option.map_eq_some_iff.1 h
      cases hsr
      obtain ⟨rfl, hs⟩ := ih hsplit
      refine ⟨rfl, fun hi => ?_⟩
      rcases List.infix_cons_iff.1 hi with hbegins | hinside
      · exact hp (List.isPrefixOf_iff_prefix.2 (hbegins.trans ⟨separator ++ r, by simp⟩))
      · exact hs hinside

theorem splitOnce_eq_none_iff (hne : separator ≠ []) :
    splitOnce t separator = none ↔ ¬separator <:+: t := by
  induction t with
  | nil => simp [splitOnce, hne]
  | cons c t ih =>
    rw [splitOnce, List.infix_cons_iff]
    split
    · next hp => simp [List.isPrefixOf_iff_prefix.1 hp]
    · next hp => rw [Option.map_eq_none_iff, ih,
        or_iff_right fun h => hp (List.isPrefixOf_iff_prefix.2 h)]

theorem splitOnce_singleton_eq_some_iff : splitOnce t [c] = some (s, r) ↔ c ∉
    s ∧ t = s ++ c :: r := by
  constructor
  · intro h
    obtain ⟨ht, hs⟩ := of_splitOnce_eq_some (List.cons_ne_nil c []) h
    exact ⟨fun hc => hs ((List.singleton_infix_iff c s).2 hc), by simpa using ht⟩
  · rintro ⟨hs, rfl⟩
    exact splitOnce_append_cons hs r

theorem splitOnce_singleton_eq_none_iff : splitOnce t [c] = none ↔ c ∉ t := by
  rw [splitOnce_eq_none_iff (List.cons_ne_nil c []), List.singleton_infix_iff]

end Dictation.Text
