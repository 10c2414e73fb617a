import Dictation.Change
import Dictation.Proofs.Selection
import Mathlib.Data.List.Infix

namespace Dictation

variable {old new a s t b r m : Text}

namespace Text

@[simp] theorem size_reverse (t : Text) : size t.reverse = t.size := by
  induction t with
  | nil => rfl
  | cons c t ih => simp [ih, Nat.add_comm]

theorem size_le_of_suffix (h : s <:+ t) : s.size ≤ t.size := by
  obtain ⟨r, rfl⟩ := h
  simp

end Text

/-- The common beginning is the longest text that both begin with. -/
theorem prefix_commonStart_iff : r <+: commonStart s t ↔ r <+: s ∧ r <+: t := by
  induction s generalizing t r with
  | nil =>
    rw [commonStart, List.prefix_nil]
    · exact ⟨fun h => ⟨h, h ▸ List.nil_prefix⟩, fun h => h.1⟩
    · nofun
  | cons c s ih =>
    cases t with
    | nil =>
      rw [commonStart, List.prefix_nil]
      · exact ⟨fun h => ⟨h ▸ List.nil_prefix, h⟩, fun h => h.2⟩
      · nofun
    | cons d t =>
      rw [commonStart]
      cases r with
      | nil => simp
      | cons e r =>
        rw [List.cons_prefix_cons, List.cons_prefix_cons]
        split_ifs with hcd
        · rw [List.cons_prefix_cons, ih, hcd, and_and_left]
        · rw [List.prefix_nil]
          exact ⟨nofun, fun h => absurd (h.1.1.symm.trans h.2.1) hcd⟩

def commonEnd (s t : Text) : Text := (commonStart s.reverse t.reverse).reverse

theorem suffix_commonEnd_iff : r <:+ commonEnd s t ↔ r <:+ s ∧ r <:+ t := by
  rw [commonEnd, ← List.reverse_prefix, List.reverse_reverse, prefix_commonStart_iff,
    List.reverse_prefix, List.reverse_prefix]

theorem exists_rests (old new : Text) :
    ∃ s t b, old = commonStart old new ++ (s ++ b) ∧ new = commonStart old new ++ (t ++ b) ∧
      commonEnd (old.drop (commonStart old new).length) (new.drop (commonStart old new).length) =
        b ∧
      ∀ r, r <:+ s ++ b → r <:+ t ++ b → r <:+ b := by
  obtain ⟨hold, hnew⟩ := prefix_commonStart_iff.1 (List.prefix_refl (commonStart old new))
  rw [List.prefix_iff_eq_append] at hold hnew
  generalize old.drop (commonStart old new).length = x at hold ⊢
  generalize new.drop (commonStart old new).length = y at hnew ⊢
  obtain ⟨⟨s, hs⟩, ⟨t, ht⟩⟩ := suffix_commonEnd_iff.1 (List.suffix_refl (commonEnd x y))
  refine ⟨s, t, _, by rw [hs, hold], by rw [ht, hnew], rfl, fun r hr hr' => ?_⟩
  rw [hs] at hr
  rw [ht] at hr'
  exact suffix_commonEnd_iff.2 ⟨hr, hr'⟩

theorem changes_of_ne (h : old ≠ new) :
    changes old new = [⟨(commonStart old new).size, new.size -
      (commonEnd (old.drop (commonStart old new).length)
        (new.drop (commonStart old new).length)).size⟩] := by
  rw [changes, if_neg h, commonEnd, Text.size_reverse]

section Longest

variable (hmax : ∀ r, r <:+ s ++ b → r <:+ t ++ b → r <:+ b)

include hmax

theorem size_le_of_shorter (hle : (s ++ b).length ≤ (t ++ b).length) (hs : r <:+ m ++ (s ++ b))
    (ht : r <:+ m ++ (t ++ b)) : r.size ≤ m.size + b.size := by
  by_cases hlong : (s ++ b).length ≤ r.length
  · have hr : s ++ b <:+ r := List.suffix_of_suffix_length_le (List.suffix_append m _) hs hlong
    have hst : s ++ b <:+ t ++ b :=
      List.suffix_of_suffix_length_le (hr.trans ht) (List.suffix_append m _) hle
    have hsize := Text.size_le_of_suffix (hmax _ List.suffix_rfl hst)
    have hrsize := Text.size_le_of_suffix hs
    simp only [Text.size_append] at hsize hrsize
    omega
  · have hlt := Nat.le_of_not_le hlong
    have hrs : r <:+ s ++ b := List.suffix_of_suffix_length_le hs (List.suffix_append m _) hlt
    have hrt : r <:+ t ++ b := List.suffix_of_suffix_length_le ht (List.suffix_append m _)
      (hlt.trans hle)
    have hsize := Text.size_le_of_suffix (hmax r hrs hrt)
    omega

theorem size_commonEnd_le (hs : r <:+ m ++ (s ++ b)) (ht : r <:+ m ++ (t ++ b)) :
    r.size ≤ m.size + b.size := by
  rcases Nat.le_total (s ++ b).length (t ++ b).length with hle | hle
  · exact size_le_of_shorter hmax hle hs ht
  · exact size_le_of_shorter (fun r hr hr' => hmax r hr' hr) hle ht hs

/-- The rest of the new text is no longer than any part that can be put in, and as long as one that
is put in for nothing. -/
theorem size_le_of_replaced {s' t' b' : Text} (hs : m ++ (s ++ b) = s' ++ b')
    (ht : m ++ (t ++ b) = t' ++ b') : t.size ≤ t'.size ∧ (s' = [] → t.size = t'.size) := by
  have hle := size_commonEnd_le hmax (hs ▸ List.suffix_append s' b') (ht ▸ List.suffix_append t' b')
  have hssize := congrArg Text.size hs
  have htsize := congrArg Text.size ht
  simp only [Text.size_append] at hssize htsize
  refine ⟨by omega, ?_⟩
  rintro rfl
  rw [Text.size_nil] at hssize
  omega

end Longest

/-- A span of the new text stands in the place of one part of the old text; what stands around it is
the same in both, and does not overlap in either. -/
structure Span.Replaces (span : Span) (old new : Text) : Prop where
  start_le_stop : span.start ≤ span.stop
  stop_le_size : span.stop ≤ new.size
  isBoundary_start : new.IsBoundary span.start
  isBoundary_stop : new.IsBoundary span.stop
  before_isPrefix : new.upTo span.start <+: old
  after_isSuffix : new.beyond span.stop <:+ old
  apart : span.start + (new.size - span.stop) ≤ min old.size new.size
  replaced : old.upTo span.start ++ new.slice span.start span.stop ++
    old.beyond (old.size - (new.size - span.stop)) = new

theorem Span.replaces_append (a s t b : Text) :
    Replaces ⟨a.size, (a ++ t).size⟩ (a ++ (s ++ b)) (a ++ (t ++ b)) := by
  have hnew : a ++ (t ++ b) = a ++ t ++ b := (List.append_assoc a t b).symm
  have hold : a ++ (s ++ b) = a ++ s ++ b := (List.append_assoc a s b).symm
  have hafter : (a ++ t ++ b).size - (a ++ t).size = b.size := by
    rw [Text.size_append, Nat.add_sub_cancel_left]
  have holdAfter : (a ++ s ++ b).size - b.size = (a ++ s).size := by
    rw [Text.size_append, Nat.add_sub_cancel]
  refine ⟨by simp, by simp, .append a (t ++ b), hnew ▸ .append (a ++ t) b, ?_, ?_, ?_, ?_⟩
  · exact (Text.upTo_size a (t ++ b)).symm ▸ List.prefix_append a (s ++ b)
  · rw [hnew, hold, Text.beyond_size]
    exact List.suffix_append (a ++ s) b
  · rw [hnew, hafter]
    simp
  · rw [hnew, hafter, Text.slice_size, Text.upTo_size, hold, holdAfter, Text.beyond_size]

theorem exists_changes_eq (h : old ≠ new) : ∃ a s t b, old = a ++ (s ++ b) ∧ new = a ++ (t ++ b) ∧
    changes old new = [⟨a.size, (a ++ t).size⟩] := by
  obtain ⟨s, t, b, hold, hnew, hstop, -⟩ := exists_rests old new
  have hsize := congrArg Text.size hnew
  simp only [Text.size_append] at hsize
  refine ⟨_, s, t, b, hold, hnew, ?_⟩
  rw [changes_of_ne h, hstop, Text.size_append]
  congr 2
  omega

/-- What is changed of a text is the smallest part that can be replaced. -/
theorem changes_smallest (old new : Text) :
    (changes old new = [] ↔ old = new) ∧
    (old ≠ new → ∃ span, changes old new = [span] ∧ span.Replaces old new ∧
      ∀ a s t b, old = a ++ s ++ b → new = a ++ t ++ b →
        span.length ≤ t.size ∧ (t = [] → span.isEmpty = true) ∧ (s = [] → span.length = t.size)) ∧
    (let start := commonStart old new
     let stop := commonStart (old.drop start.length).reverse (new.drop start.length).reverse
     start.size ≤ min old.size new.size ∧ stop.size ≤ min old.size new.size - start.size ∧
       stop.size ≤ new.size) := by
  obtain ⟨s₀, t₀, b₀, hold, hnew, hstop, hmax⟩ := exists_rests old new
  have hspan (h : old ≠ new) :
      changes old new = [⟨(commonStart old new).size, (commonStart old new ++ t₀).size⟩] := by
    have hsize := congrArg Text.size hnew
    simp only [Text.size_append] at hsize
    rw [changes_of_ne h, hstop, Text.size_append]
    congr 2
    omega
  refine ⟨?_, fun hne => ⟨_, hspan hne, ?_, fun a s t b ha hb => ?_⟩, ?_⟩
  · by_cases h : old = new
    · simp [changes, h]
    · simp [hspan h, h]
  · have := Span.replaces_append (commonStart old new) s₀ t₀ b₀
    rwa [← hold, ← hnew] at this
  · obtain ⟨m, hm⟩ : a <+: commonStart old new :=
      prefix_commonStart_iff.2 ⟨⟨s ++ b, by rw [ha, List.append_assoc]⟩,
        ⟨t ++ b, by rw [hb, List.append_assoc]⟩⟩
    have hs : m ++ (s₀ ++ b₀) = s ++ b :=
      List.append_cancel_left (by rw [← List.append_assoc, hm, ← hold, ha, List.append_assoc])
    have ht : m ++ (t₀ ++ b₀) = t ++ b :=
      List.append_cancel_left (by rw [← List.append_assoc, hm, ← hnew, hb, List.append_assoc])
    obtain ⟨hle, hinsert⟩ := size_le_of_replaced hmax hs ht
    have hlength : (Span.mk (commonStart old new).size (commonStart old new ++ t₀).size).length =
        t₀.size := by
      rw [Span.length, Text.size_append, Nat.add_sub_cancel_left]
    rw [hlength]
    refine ⟨hle, ?_, hinsert⟩
    rintro rfl
    rw [Text.size_eq_zero.1 (Nat.le_zero.1 hle), List.append_nil, Span.isEmpty, beq_self_eq_true]
  · have hsize := congrArg Text.size hold
    have hsize' := congrArg Text.size hnew
    rw [commonEnd] at hstop
    simp only [Text.size_append, ← hstop, Text.size_reverse] at hsize hsize'
    refine ⟨by omega, by omega, by omega⟩

theorem changes_smallest_of_run :
    let old : Text := ['a', 'a']
    let new : Text := ['a', 'a', 'a']
    old ≠ new ∧ changes old new = [⟨2, 3⟩] ∧ old = [] ++ [] ++ ['a', 'a'] ∧
      new = [] ++ ['a'] ++ ['a', 'a'] ∧ (Span.mk 2 3).length = 1 := by
  intro old new
  have hne : old ≠ new := by decide
  obtain ⟨span, hspan, -, hsmallest⟩ := (changes_smallest old new).2.1 hne
  have hchanges : changes old new = [⟨2, 3⟩] := by decide
  obtain rfl : Span.mk 2 3 = span := List.singleton_inj.1 (hchanges.symm.trans hspan)
  exact ⟨hne, hchanges, rfl, rfl, (hsmallest [] [] ['a'] ['a', 'a'] rfl rfl).2.2 rfl⟩

end Dictation
