import Dictation.Text.Replace
import Mathlib.Data.List.Infix

namespace Dictation.Text

variable {old new s t r : Text} {c : Char}

@[simp] theorem replaceEach_nil : replaceEach old new [] = [] := rfl

theorem replaceFrom_append (s t : Text) :
    replaceFrom old new s.length (s ++ t) = replaceEach old new t := by
  induction s with
  | nil => rfl
  | cons c s ih => exact ih

theorem replaceEach_append (hne : old ≠ []) (t : Text) :
    replaceEach old new (old ++ t) = new ++ replaceEach old new t := by
  obtain ⟨c, o, rfl⟩ := List.exists_cons_of_ne_nil hne
  have hbegins : (c :: o).isPrefixOf (c :: (o ++ t)) = true :=
    List.isPrefixOf_iff_prefix.2 (List.prefix_append (c :: o) t)
  rw [replaceEach, List.cons_append, replaceFrom, if_pos hbegins, List.length_cons,
    Nat.add_sub_cancel, replaceFrom_append]

theorem replaceEach_cons (h : ¬old <+: c :: t) :
    replaceEach old new (c :: t) = c :: replaceEach old new t := by
  rw [replaceEach, replaceFrom, if_neg (mt List.isPrefixOf_iff_prefix.1 h), replaceEach]

/-- From left to right there is the end of the text, an occurrence, or a character where none
begins. -/
theorem replaceEach_induction {motive : Text → Prop} (hne : old ≠ []) (nil : motive [])
    (occurrence : ∀ t, motive t → motive (old ++ t))
    (other : ∀ c t, ¬old <+: c :: t → motive t → motive (c :: t)) (t : Text) : motive t := by
  induction hn : t.length using Nat.strong_induction_on generalizing t with
  | _ n ih =>
    obtain _ | ⟨c, t⟩ := t
    · exact nil
    · by_cases h : old <+: c :: t
      · obtain ⟨r, hr⟩ := h
        have hlen := congrArg List.length hr
        have hpos : 0 < old.length := List.length_pos_iff.2 hne
        rw [List.length_append] at hlen
        rw [← hr]
        exact occurrence r (ih r.length (by omega) r rfl)
      · exact other c t h (ih t.length (by rw [← hn]; exact Nat.lt_succ_self _) t rfl)

theorem mem_replaceEach (hne : old ≠ []) (h : c ∈ replaceEach old new t) : c ∈ t ∨ c ∈ new := by
  induction t using replaceEach_induction hne with
  | nil => cases h
  | occurrence t ih =>
    rw [replaceEach_append hne, List.mem_append] at h
    exact h.elim .inr fun h => (ih h).imp_left (List.mem_append_right old)
  | other d t hd ih =>
    rw [replaceEach_cons hd, List.mem_cons] at h
    obtain rfl | h := h
    · exact .inl List.mem_cons_self
    · exact (ih h).imp_left (List.mem_cons_of_mem d)

/-- No occurrence goes across a character that is not in it. -/
theorem replaceEach_append_cons (hne : old ≠ []) (hc : c ∉ old) (s t : Text) :
    replaceEach old new (s ++ c :: t) = replaceEach old new s ++ c :: replaceEach old new t := by
  induction s using replaceEach_induction hne with
  | nil =>
    have hnot : ¬old <+: c :: t := by
      obtain ⟨d, o, rfl⟩ := List.exists_cons_of_ne_nil hne
      rw [List.cons_prefix_cons]
      rintro ⟨rfl, -⟩
      exact hc List.mem_cons_self
    rw [List.nil_append, replaceEach_cons hnot]
    rfl
  | occurrence s ih =>
    rw [List.append_assoc, replaceEach_append hne, ih, replaceEach_append hne, List.append_assoc]
  | other d s hd ih =>
    have hnot : ¬old <+: d :: s ++ c :: t := by
      rintro ⟨w, hw⟩
      -- what begins before the character and does not have it ends before it
      obtain ⟨m, hm, -⟩ | ⟨m, hold, hm⟩ := List.append_eq_append_iff.1 hw
      · exact hd ⟨m, hm.symm⟩
      · obtain _ | ⟨e, m⟩ := m
        · exact hd ⟨[], hold ▸ by simp⟩
        · obtain rfl := (List.cons.inj hm).1
          exact hc (hold ▸ List.mem_append_right _ List.mem_cons_self)
    rw [List.cons_append] at hnot
    rw [List.cons_append, replaceEach_cons hnot, ih, replaceEach_cons hd, List.cons_append]

section First

theorem exists_first_occurrence (hne : old ≠ []) (t : Text) : ¬old <:+: t ∨
    ∃ s r, t = s ++ old ++ r ∧ ∀ x y, x ++ y = t → old <+: y → s.length ≤ x.length := by
  induction t with
  | nil => exact .inl fun h => hne (List.infix_nil.1 h)
  | cons c t ih =>
    by_cases h : old <+: c :: t
    · obtain ⟨r, hr⟩ := h
      exact .inr ⟨[], r, hr.symm, fun x _ _ _ => Nat.zero_le x.length⟩
    · obtain hno | ⟨s, r, rfl, hleast⟩ := ih
      · exact .inl fun hi => (List.infix_cons_iff.1 hi).elim h hno
      · refine .inr ⟨c :: s, r, rfl, ?_⟩
        rintro (_ | ⟨d, x⟩) y hxy hy
        · exact absurd (hxy ▸ hy) h
        · exact Nat.succ_le_succ (hleast x y (List.cons.inj hxy).2 hy)

theorem replaceEach_of_not_infix (h : ¬old <:+: t) : replaceEach old new t = t := by
  induction t with
  | nil => rfl
  | cons c t ih =>
    rw [List.infix_cons_iff, not_or] at h
    rw [replaceEach_cons h.1, ih h.2]

theorem replaceEach_of_first (hne : old ≠ [])
    (h : ∀ x y, x ++ y = s ++ old ++ r → old <+: y → s.length ≤ x.length) :
    replaceEach old new (s ++ old ++ r) = s ++ new ++ replaceEach old new r := by
  induction s with
  | nil => exact replaceEach_append hne r
  | cons c s ih =>
    have hnot : ¬old <+: c :: (s ++ old ++ r) := fun hp => Nat.not_succ_le_zero _ (h [] _ rfl hp)
    have hrest : ∀ x y, x ++ y = s ++ old ++ r → old <+: y → s.length ≤ x.length :=
      fun x y hxy hy =>
      Nat.le_of_succ_le_succ (h (c :: x) y (congrArg (c :: ·) hxy) hy)
    rw [List.cons_append, List.cons_append, replaceEach_cons hnot, ih hrest]
    rfl

end First

end Dictation.Text
