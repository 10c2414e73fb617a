import Dictation.Folder
import Dictation.Proofs.Settings.Reference

namespace Dictation.Settings

variable {valueOf? : Text → Option Text} {s t u before name after w : Text} {names : List Text}
  {k : Nat}

/-- What a text comes to when its first variable is replaced round by round, until there is none. -/
inductive Expands (valueOf? : Text → Option Text) : Text → Text → Prop
  | stop {t : Text} (h : firstVariable? t = none) : Expands valueOf? t t
  | round {t before name after u : Text} (h : firstVariable? t = some (before, name, after))
      (rest : Expands valueOf? (before ++ (valueOf? name).getD [] ++ after) u) :
        Expands valueOf? t u

section Rounds

variable {σ : Type} [Nonempty σ]

theorem expand_of_none (lookup : Text → StateM σ (Option Text)) (h : firstVariable? t = none) :
    expand lookup t = pure t := by
  rw [expand, repeatM_eq_of_monadTail, repeatM.body, h]
  rfl

theorem expand_of_some (lookup : Text → StateM σ (Option Text))
    (h : firstVariable? t = some (before, name, after)) :
    expand lookup t = (do
      let value ← lookup name
      expand lookup (before ++ value.getD [] ++ after)) := by
  rw [expand, repeatM_eq_of_monadTail, repeatM.body, h]
  rfl

theorem run_expand (h : Expands valueOf? t u) (st : σ) :
    (expand (fun name => pure (valueOf? name)) t : StateM σ Text).run st = (u, st) := by
  induction h with
  | stop h =>
    rw [expand_of_none _ h]
    rfl
  | round h _ ih =>
    rw [expand_of_some _ h]
    exact ih

theorem Expands.firstVariable?_eq_none (h : Expands valueOf? t u) : firstVariable? u = none := by
  induction h with
  | stop h => exact h
  | round _ _ ih => exact ih

end Rounds

section Termination

/-- The variable is referred to by the value of another. -/
def RefersTo (valueOf? : Text → Option Text) (m n : Text) : Prop :=
  ∃ value names, valueOf? n = some value ∧ Spelt value names ∧ m ∈ names

/-- All variables in the values are whole. -/
def Whole (valueOf? : Text → Option Text) : Prop :=
  ∀ n value, valueOf? n = some value → ∃ names, Spelt value names

theorem Whole.exists_spelt (hv : Whole valueOf?) (n : Text) :
    ∃ names, Spelt ((valueOf? n).getD []) names ∧ ∀ m ∈ names, RefersTo valueOf? m n := by
  cases hn : valueOf? n with
  | none => exact ⟨[], .plain plain_nil, nofun⟩
  | some value =>
    obtain ⟨names, hnames⟩ := hv n value hn
    exact ⟨names, hnames, fun m hm => ⟨value, names, hn, hnames, hm⟩⟩

/-- With whole variables of these names between its parts, a text comes to an end if no more than
`k` dollars in those parts can still open a variable. -/
def Settles (valueOf? : Text → Option Text) (k : Nat) (names : List Text) : Prop :=
  ∀ before middle after, ¬opening <:+: before → Spelt middle names →
    dollars before + after.count '$' ≤ k → ∃ u, Expands valueOf? (before ++ middle ++ after) u

theorem exists_expands_of_close (hbefore : ¬opening <:+: before)
    (h : ∀ name after, '\x7d' ∉ name → w = name ++ '\x7d' :: after →
      ∃ u, Expands valueOf? (before ++ (valueOf? name).getD [] ++ after) u) :
    ∃ u, Expands valueOf? (before ++ opening ++ w) u := by
  have hfirst := firstVariable?_append hbefore w
  cases hclose : w.splitOnce ['\x7d'] with
  | none => exact ⟨_, .stop (by rw [hfirst, hclose, Option.map_none])⟩
  | some p =>
    obtain ⟨name, after⟩ := p
    obtain ⟨hname, hw⟩ := Text.splitOnce_singleton_eq_some_iff.1 hclose
    obtain ⟨u, hu⟩ := h name after hname hw
    exact ⟨u, .round (by rw [hfirst, hclose, Option.map_some]) hu⟩

section Bounded

variable (hv : Whole valueOf?) (hk : ∀ j < k, ∀ names, Settles valueOf? j names)

include hv hk

theorem exists_expands_of_meets (hbefore : ¬opening <:+: before) (hs : Spelt s names)
    (hd : dollars (before ++ ['$']) + after.count '$' ≤ k) (hmeets : s ++ after = '\x7b' :: w) :
    ∃ u, Expands valueOf? (before ++ opening ++ w) u := by
  rw [dollars_concat, if_pos rfl] at hd
  refine exists_expands_of_close hbefore fun name rest hname hw => ?_
  obtain ⟨ms, hms, -⟩ := hv.exists_spelt name
  obtain ⟨s', ns, after', rfl, hs', hafter⟩ :=
    hs.exists_after_brace (hmeets.trans (congrArg ('\x7b' :: ·) hw))
      (List.not_mem_cons_of_ne_of_not_mem (by decide) hname)
  have hcount : after'.count '$' ≤ after.count '$' := hafter.sublist.count_le '$'
  obtain ⟨u, hu⟩ := hk (dollars before + after'.count '$')
    (by omega) _ before _ after' hbefore (hms.append hs') le_rfl
  exact ⟨u, by rwa [← List.append_assoc, List.append_assoc _ _ after'] at hu⟩

theorem exists_expands_of_cases (hbefore : ¬opening <:+: before) (hs : Spelt s names)
    (hd : dollars before + after.count '$' ≤ k)
    (h : (∀ p, p <+: s ++ after → ¬opening <:+: p → ¬opening <:+: before ++ p) →
      ∃ u, Expands valueOf? (before ++ (s ++ after)) u) :
    ∃ u, Expands valueOf? (before ++ (s ++ after)) u := by
  by_cases hmeets : before.getLast? = some '$' ∧ (s ++ after).head? = some '\x7b'
  · obtain ⟨b, rfl⟩ := List.getLast?_eq_some_iff.1 hmeets.1
    obtain ⟨w, hw⟩ := List.head?_eq_some_iff.1 hmeets.2
    have hb : ¬opening <:+: b := fun hb => hbefore (List.infix_append_of_infix_left hb)
    rw [hw]
    simpa [opening] using exists_expands_of_meets hv hk hb hs hd hw
  · refine h fun p hp hopen hinfix => ?_
    rcases opening_infix_append_iff.1 hinfix with hinfix | hinfix | ⟨hlast, hhead⟩
    · exact hbefore hinfix
    · exact hopen hinfix
    · obtain ⟨q, hq⟩ := hp
      exact hmeets ⟨hlast, by rw [← hq, List.head?_append, hhead, Option.some_or]⟩

theorem settles_nil : Settles valueOf? k [] := by
  intro before s after hbefore hs hd
  have hplain : Plain s := by
    cases hs
    assumption
  have hs' {p : Text} (hp : ¬opening <:+: p) : ¬opening <:+: s ++ p := by
    rw [opening_infix_append_iff]
    exact not_or_intro hplain.1 (not_or_intro hp fun h => hplain.2 h.1)
  rw [List.append_assoc]
  refine exists_expands_of_cases hv hk hbefore hs hd fun hreads => ?_
  cases hopen : after.splitOnce opening with
  | none =>
    have hafter := (Text.splitOnce_eq_none_iff opening_ne_nil).1 hopen
    exact ⟨_, .stop (firstVariable?_of_not_opening (hreads _ List.prefix_rfl (hs' hafter)))⟩
  | some p =>
    obtain ⟨p, w⟩ := p
    obtain ⟨rfl, hp⟩ := Text.of_splitOnce_eq_some opening_ne_nil hopen
    have hfront := hreads (s ++ p) ⟨opening ++ w, by simp⟩ (hs' hp)
    have hclose : ∃ u, Expands valueOf? (before ++ (s ++ p) ++ opening ++ w) u := by
      refine exists_expands_of_close hfront fun name rest hname hw => ?_
      obtain ⟨ms, hms, -⟩ := hv.exists_spelt name
      have hle := (dollars_append_le (before ++ s) p).trans
        (Nat.add_le_add_right (dollars_append_of_plain hplain before) _)
      rw [List.append_assoc] at hle
      have hcount : (p ++ opening ++ w).count '$' = p.count '$' + 1 +
          (name.count '$' + rest.count '$') := by
        simp [hw, opening]
        omega
      exact hk (dollars (before ++ (s ++ p)) + rest.count '$')
        (by omega) _ _ _ rest hfront hms le_rfl
    simpa using hclose

theorem settles_cons (hname : ∀ ms,
    (∀ m ∈ ms, RefersTo valueOf? m name) → Settles valueOf? k (ms ++ names)) :
    Settles valueOf? k (name :: names) := by
  intro before s after hbefore hs hd
  rw [List.append_assoc]
  refine exists_expands_of_cases hv hk hbefore hs hd fun hreads => ?_
  cases hs with
  | @reference b _ rest _ hb hn hrest =>
    have hfront := hreads b ⟨reference name ++ rest ++ after, by simp⟩ hb.1
    obtain ⟨ms, hms, hrefers⟩ := hv.exists_spelt name
    have hle := dollars_append_of_plain hb before
    obtain ⟨u, hu⟩ := hname ms hrefers (before ++ b) _ after hfront (hms.append hrest) (by omega)
    have hfirst : firstVariable? (before ++ (b ++ reference name ++ rest ++ after)) =
        some (before ++ b, name, rest ++ after) :=
      firstVariable?_eq_some_iff.2 ⟨hfront, hn, by simp⟩
    exact ⟨u, .round hfirst (by simpa using hu)⟩

/-- The whole variables of a text come to an end when no chain of references from them goes on
forever. The induction over such a chain replaces a variable by those in its value. -/
theorem settles_of_acc (hacc : ∀ n ∈ names, Acc (RefersTo valueOf?) n) :
    Settles valueOf? k names := by
  have hone {n : Text} (hn : Acc (RefersTo valueOf?) n) :
      ∀ names, Settles valueOf? k names → Settles valueOf? k (n :: names) := by
    induction hn with
    | intro n _ ih =>
      intro names hnames
      refine settles_cons hv hk fun ms hms => ?_
      induction ms with
      | nil => exact hnames
      | cons m ms ihms =>
        obtain ⟨hm, hms⟩ := List.forall_mem_cons.1 hms
        exact ih m hm _ (ihms hms)
  induction names with
  | nil => exact settles_nil hv hk
  | cons n names ih =>
    obtain ⟨hn, hacc⟩ := List.forall_mem_cons.1 hacc
    exact hone hn names (ih hacc)

end Bounded

variable (hv : Whole valueOf?)

include hv

theorem settles_of_wellFounded (hwf : WellFounded (RefersTo valueOf?)) (k : Nat)
    (names : List Text) : Settles valueOf? k names := by
  induction k using Nat.strong_induction_on generalizing names with
  | h k ih => exact settles_of_acc hv ih fun n _ => hwf.apply n

theorem exists_expands_of_wellFounded (hwf : WellFounded (RefersTo valueOf?)) (t : Text) :
    ∃ u, Expands valueOf? t u := by
  have := settles_of_wellFounded hv hwf _ [] [] [] t not_opening_infix_nil (.plain plain_nil) le_rfl
  rwa [List.nil_append] at this

theorem exists_expands_reference (hname : '\x7d' ∉ name) (hacc : Acc (RefersTo valueOf?) name) :
    ∃ u, Expands valueOf? (reference name) u := by
  have hsettles : Settles valueOf? 0 [name] :=
    settles_of_acc hv (fun j hj => absurd hj (Nat.not_lt_zero j)) (List.forall_mem_singleton.2 hacc)
  have := hsettles [] _ [] not_opening_infix_nil (spelt_reference hname) le_rfl
  rwa [List.nil_append, List.append_nil] at this

theorem acc_of_expands (h : Expands valueOf? t u) (hbefore : Plain before) (hs : Spelt s names)
    (ht : t = before ++ s) : ∀ n ∈ names, Acc (RefersTo valueOf?) n := by
  induction h generalizing before s names with
  | stop h =>
    cases hs with
    | plain => exact nofun
    | reference _ _ _ =>
      rw [← List.append_assoc, ← List.append_assoc] at ht
      exact absurd ht (ne_of_firstVariable?_eq_none h _ _ _)
  | @round t first name after u h _ ih =>
    cases hs with
    | plain => exact nofun
    | @reference b _ rest names hb hname hrest =>
      have hfront := hbefore.append hb
      rw [← List.append_assoc, ← List.append_assoc] at ht
      have hfirst := firstVariable?_eq_some_iff.2 ⟨hfront.1, hname, ht⟩
      cases h.symm.trans hfirst
      have hrest' {value : Text} {ms : List Text} (hvalue : (valueOf? name).getD [] = value)
        (hms : Spelt value ms) :
          ∀ m ∈ ms ++ names, Acc (RefersTo valueOf?) m :=
        ih hfront (hms.append hrest) (by rw [hvalue, List.append_assoc])
      refine List.forall_mem_cons.2 ⟨.intro name ?_, ?_⟩
      · rintro m ⟨value, ms, hvalue, hms, hm⟩
        exact hrest' (by rw [hvalue, Option.getD_some]) hms m (List.mem_append_left _ hm)
      · obtain ⟨ms, hms, -⟩ := hv.exists_spelt name
        exact (List.forall_mem_append.1 (hrest' rfl hms)).2

/-- The expansions of all texts end only if no chain of references goes on forever. A name that
holds a brace is in no reference, but what its value refers to is. -/
theorem wellFounded_of_expands (h : ∀ t, ∃ u, Expands valueOf? t u) :
    WellFounded (RefersTo valueOf?) := by
  refine ⟨fun n => .intro n fun m hm => ?_⟩
  obtain ⟨value, names, -, hs, hm⟩ := hm
  obtain ⟨u, hu⟩ := h value
  exact acc_of_expands hv hu plain_nil hs (List.nil_append value).symm m hm

end Termination

/-- Where the rounds end, no variable is left, and the program answers with the text they end in.
They end for every text just when no value leads back to itself, if the variables in the values are
whole: a dollar stands before no variable and at no end, and no variable is left open. The expansion
of one variable ends just when no chain of references goes on forever from it. -/
theorem expansion_ends_iff (valueOf? : Text → Option Text) :
    (∀ t u, Expands valueOf? t u →
      (∀ before name after, u ≠ before ++ reference name ++ after) ∧
      ∀ (σ : Type) (st : σ), (expand (fun name => pure (valueOf? name)) t : StateM σ Text).run st =
        (u, st)) ∧
    (Whole valueOf? →
      ((∀ t, ∃ u, Expands valueOf? t u) ↔ WellFounded (RefersTo valueOf?)) ∧
      ∀ name, '\x7d' ∉ name →
        ((∃ u, Expands valueOf? (reference name) u) ↔ Acc (RefersTo valueOf?) name)) := by
  refine ⟨fun t u h => ⟨ne_of_firstVariable?_eq_none h.firstVariable?_eq_none, fun σ st => ?_⟩,
    fun hv => ⟨⟨wellFounded_of_expands hv, exists_expands_of_wellFounded hv⟩,
      fun name hname => ⟨?_, ?_⟩⟩⟩
  · have : Nonempty σ := ⟨st⟩
    exact run_expand h st
  · rintro ⟨u, hu⟩
    exact acc_of_expands hv hu plain_nil (spelt_reference hname)
      (List.nil_append _).symm name List.mem_cons_self
  · exact exists_expands_reference hv hname

def nestedValue? (name : Text) : Option Text :=
  if name = ['d'] then some (['~', '/'] ++ reference ['r'] ++ ['s'])
  else if name = ['r'] then some ['x'] else none

theorem expansion_ends_iff_nested :
    Whole nestedValue? ∧ Expands nestedValue? (reference ['d']) ['~', '/', 'x', 's'] ∧
      (∀ before name after, ['~', '/', 'x', 's'] ≠ before ++ reference name ++ after) ∧
      ((expand (fun name => pure (nestedValue? name)) (reference ['d']) : StateM Unit Text).run
        ()).1 = ['~', '/', 'x', 's'] ∧
      '\x7d' ∉ ['d'] ∧ Acc (RefersTo nestedValue?) ['d'] := by
  have hv : Whole nestedValue? := by
    intro n value h
    rw [nestedValue?] at h
    split_ifs at h
    · obtain rfl := Option.some.inj h
      exact ⟨[['r']], .reference (by decide) (by decide) (.plain (by decide))⟩
    · obtain rfl := Option.some.inj h
      exact ⟨[], .plain (by decide)⟩
  have h : Expands nestedValue? (reference ['d']) ['~', '/', 'x', 's'] := by
    have hd : firstVariable? (reference ['d']) = some ([], ['d'], []) := by decide
    have hr : firstVariable? (['~', '/'] ++ reference ['r'] ++ ['s']) = some (['~', '/'], ['r'],
        ['s']) := by decide
    exact .round hd (.round hr (.stop (by decide)))
  obtain ⟨hends, hwhole⟩ := expansion_ends_iff nestedValue?
  obtain ⟨hleft, hrun⟩ := hends _ _ h
  exact ⟨hv, h, hleft, congrArg Prod.fst (hrun Unit ()), by decide,
    ((hwhole hv).2 ['d'] (by decide)).1 ⟨_, h⟩⟩

/-- A text that a round leaves as it is never comes to an end. -/
theorem not_expands_of_round (h : firstVariable? t = some (before, name, after))
    (ht : before ++ (valueOf? name).getD [] ++ after = t) : ¬∃ u, Expands valueOf? t u := by
  rintro ⟨u, hu⟩
  induction hu with
  | stop h' => cases h.symm.trans h'
  | round h' _ ih =>
    cases h.symm.trans h'
    exact ih (by rw [ht, h]) rfl

/-- A variable whose value is the variable again is replaced forever. -/
theorem not_ends_of_self :
    let name : Text := ['V', 'O', 'X', '_', 'A']
    ¬∃ u, Expands (Folder.valueOf? [(name, reference name)]) (reference name) u := by
  intro name
  have hfirst : firstVariable? (reference name) = some ([], name, []) := by decide
  exact not_expands_of_round hfirst (by decide)

end Dictation.Settings
