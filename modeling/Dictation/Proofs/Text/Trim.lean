import Mathlib.Data.List.DropRight
import Dictation.Text.Trim

namespace Dictation.Text

open Character

variable {s t : Text} {c : Char}

theorem trimEnd_eq_rdropWhile (t : Text) : t.trimEnd = t.rdropWhile isBlank := rfl

theorem trim_sublist (t : Text) : List.Sublist t.trim t :=
  (List.rdropWhile_prefix isBlank t.trimStart).sublist.trans (List.dropWhile_sublist isBlank)

theorem trim_eq_nil_iff : t.trim = [] ↔ ∀ c ∈ t, isBlank c = true := by
  rw [trim, trimEnd_eq_rdropWhile, List.rdropWhile_eq_nil_iff, trimStart]
  constructor
  · intro h c hc
    rw [← List.takeWhile_append_dropWhile (p := isBlank) (l := t), List.mem_append] at hc
    exact hc.elim List.mem_takeWhile_imp (h c)
  · exact fun h c hc => h c ((List.dropWhile_sublist isBlank).subset hc)

theorem isBlank_of_head?_trim (hc : t.trim.head? = some c) : isBlank c = false := by
  obtain ⟨u, hu⟩ : t.trim <+: t.trimStart := List.rdropWhile_prefix isBlank t.trimStart
  have hhead : t.trimStart.head? = some c := by
    rw [← hu, List.head?_append, hc, Option.some_or]
  have hnot := List.head?_dropWhile_not isBlank t
  rw [← trimStart, hhead] at hnot
  simpa using hnot

theorem isBlank_of_getLast?_trim (hc : t.trim.getLast? = some c) : isBlank c = false := by
  have hne : t.trim ≠ [] := by
    rintro h
    rw [h] at hc
    cases hc
  have hlast : t.trim.getLast hne = c := by
    rwa [List.getLast?_eq_some_getLast hne, Option.some.injEq] at hc
  have hnot := List.rdropWhile_last_not isBlank t.trimStart hne
  rw [← hlast]
  exact Bool.not_eq_true _ ▸ hnot

theorem trim_eq_self_iff : t.trim = t ↔
    (∀ c, t.head? = some c → isBlank c = false) ∧ ∀ c, t.getLast? = some c → isBlank c = false := by
  constructor
  · intro ht
    constructor
    · intro c hc
      exact isBlank_of_head?_trim (ht.symm ▸ hc)
    · intro c hc
      exact isBlank_of_getLast?_trim (ht.symm ▸ hc)
  · rintro ⟨hhead, hlast⟩
    have hstart : t.trimStart = t := by
      rw [trimStart, List.dropWhile_eq_self_iff]
      intro hl
      simp [hhead _ (List.head?_eq_getElem? ▸ List.getElem?_eq_getElem hl)]
    rw [trim, hstart, trimEnd_eq_rdropWhile, List.rdropWhile_eq_self_iff]
    intro hl
    simp [hlast _ (List.getLast?_eq_some_getLast hl)]

@[simp] theorem trim_trim (t : Text) : t.trim.trim = t.trim :=
  trim_eq_self_iff.2 ⟨fun _ => isBlank_of_head?_trim, fun _ => isBlank_of_getLast?_trim⟩

theorem trim_append_of_blank (hs : ∀ c ∈ s, isBlank c = true) (t : Text) :
    (t ++ s).trim = t.trim := by
  have hend (r : Text) : (r ++ s).trimEnd = r.trimEnd := by
    rw [trimEnd, trimEnd, List.reverse_append, List.dropWhile_append_of_pos fun c hc =>
      hs c (List.mem_reverse.1 hc)]
  rw [trim, trim, trimStart, List.dropWhile_append]
  split_ifs with ht
  · have hblank : t.trimStart = [] := List.isEmpty_iff.1 ht
    have hs' : s.dropWhile isBlank = [] := List.dropWhile_eq_nil_iff.2 hs
    rw [hs', hblank]
  · exact hend _

theorem trim_append_of_blank_left (hs : ∀ c ∈ s, isBlank c = true) (t : Text) :
    (s ++ t).trim = t.trim := by
  rw [trim, trimStart, List.dropWhile_append_of_pos hs]
  rfl

theorem exists_eq_trim (t : Text) : ∃ before after, t = before ++ t.trim ++ after ∧
    (∀ c ∈ before, isBlank c = true) ∧ ∀ c ∈ after, isBlank c = true := by
  refine ⟨t.takeWhile isBlank, t.trimStart.rtakeWhile isBlank, ?_, fun c => List.mem_takeWhile_imp,
    fun c =>
    List.mem_rtakeWhile_imp⟩
  rw [trim, trimEnd_eq_rdropWhile, List.append_assoc, List.rdropWhile_append_rtakeWhile, trimStart,
    List.takeWhile_append_dropWhile]

theorem trim_append_cons (hs : s.trim = s) (ht : t.trim = t) (hs' : s ≠ []) (ht' : t ≠ [])
    (c : Char) : (s ++ c :: t).trim = s ++ c :: t := by
  obtain ⟨a, s, rfl⟩ := List.exists_cons_of_ne_nil hs'
  obtain ⟨b, t, rfl⟩ := List.exists_cons_of_ne_nil ht'
  rw [trim_eq_self_iff] at hs ht ⊢
  constructor
  · exact hs.1
  · intro d hd
    apply ht.2 d
    rw [← hd, List.getLast?_append_cons, List.getLast?_cons_cons]

end Dictation.Text
