import Mathlib.Data.Finset.Card
import Dictation.Pattern.Reach

namespace Dictation.Pattern

/-- A match of the pattern can go from the first position to the second. -/
inductive Leads : Located → Nat → Nat → Prop
  | empty (i : Nat) : Leads .empty i i
  | one {s : Positions} {i : Nat} (h : s.mem i = true) : Leads (.one s) i (i + 1)
  | place {s : Positions} {i : Nat} (h : s.mem i = true) : Leads (.place s) i i
  | seq {p q : Located} {i j k : Nat} (hp : Leads p i j) (hq : Leads q j k) : Leads (.seq p q) i k
  | altLeft {p q : Located} {i j : Nat} (hp : Leads p i j) : Leads (.alt p q) i j
  | altRight {p q : Located} {i j : Nat} (hq : Leads q i j) : Leads (.alt p q) i j
  | optNone (greedy : Bool) (p : Located) (i : Nat) : Leads (.opt greedy p) i i
  | optSome (greedy : Bool) {p : Located} {i j : Nat} (hp : Leads p i j) : Leads (.opt greedy p) i j
  | starNil (greedy : Bool) (p : Located) (i : Nat) : Leads (.star greedy p) i i
  | starCons {greedy : Bool} {p : Located} {i j k : Nat} (hp : Leads p i j)
    (hq : Leads (.star greedy p) j k) : Leads (.star greedy p) i k
  | plus {greedy : Bool} {p : Located} {i j k : Nat} (hp : Leads p i j)
    (hq : Leads (.star greedy p) j k) : Leads (.plus greedy p) i k
  | group (index : Nat) {p : Located} {i j : Nat} (hp : Leads p i j) : Leads (.group index p) i j

section Inversion

variable {p q : Located} {s : Positions} {i j : Nat}

@[simp] theorem leads_empty_iff : Leads .empty i j ↔ i = j := by
  constructor
  · rintro ⟨⟩
    rfl
  · rintro rfl
    exact .empty i

@[simp] theorem leads_one_iff : Leads (.one s) i j ↔ s.mem i = true ∧ i + 1 = j := by
  constructor
  · rintro ⟨⟩
    exact ⟨‹_›, rfl⟩
  · rintro ⟨h, rfl⟩
    exact .one h

@[simp] theorem leads_place_iff : Leads (.place s) i j ↔ s.mem i = true ∧ i = j := by
  constructor
  · rintro ⟨⟩
    exact ⟨‹_›, rfl⟩
  · rintro ⟨h, rfl⟩
    exact .place h

@[simp] theorem leads_seq_iff : Leads (.seq p q) i j ↔ ∃ k, Leads p i k ∧ Leads q k j := by
  constructor
  · rintro ⟨⟩
    exact ⟨_, ‹_›, ‹_›⟩
  · rintro ⟨k, hp, hq⟩
    exact .seq hp hq

@[simp] theorem leads_alt_iff : Leads (.alt p q) i j ↔ Leads p i j ∨ Leads q i j := by
  constructor
  · rintro ⟨⟩
    · exact .inl ‹_›
    · exact .inr ‹_›
  · rintro (hp | hq)
    · exact .altLeft hp
    · exact .altRight hq

@[simp] theorem leads_opt_iff {greedy : Bool} :
    Leads (.opt greedy p) i j ↔ i = j ∨ Leads p i j := by
  constructor
  · rintro ⟨⟩
    · exact .inl rfl
    · exact .inr ‹_›
  · rintro (rfl | hp)
    · exact .optNone greedy p i
    · exact .optSome greedy hp

@[simp] theorem leads_plus_iff {greedy : Bool} :
    Leads (.plus greedy p) i j ↔ ∃ k, Leads p i k ∧ Leads (.star greedy p) k j := by
  constructor
  · rintro ⟨⟩
    exact ⟨_, ‹_›, ‹_›⟩
  · rintro ⟨k, hp, hq⟩
    exact .plus hp hq

@[simp] theorem leads_group_iff {index : Nat} : Leads (.group index p) i j ↔ Leads p i j := by
  constructor
  · rintro ⟨⟩
    assumption
  · exact .group index

end Inversion

theorem Leads.le {p : Located} {i j : Nat} (h : Leads p i j) : i ≤ j := by
  induction h <;> omega

theorem leads_star_mono {p q : Located} {greedy : Bool} {i j : Nat}
    (hpq : ∀ i j, Leads p i j → Leads q i j)
    (h : Leads (.star greedy p) i j) : Leads (.star greedy q) i j := by
  generalize hs : Shape.star greedy p = s at h
  induction h with
  | starNil => exact .starNil _ _ _
  | starCons hbody _ _ ih =>
    cases hs
    exact .starCons (hpq _ _ hbody) (ih rfl)
  | _ => cases hs

theorem leads_star_congr {p q : Located} {greedy : Bool} {i j : Nat}
    (hpq : ∀ i j, Leads p i j ↔ Leads q i j) :
    Leads (.star greedy p) i j ↔ Leads (.star greedy q) i j :=
  ⟨leads_star_mono fun i j => (hpq i j).1, leads_star_mono fun i j => (hpq i j).2⟩

namespace Positions

variable {s t : Positions} {n : Nat}

instance : LE Positions := ⟨fun s t => ∀ i, s.mem i = true → t.mem i = true⟩

theorem le_antisymm (hst : s ≤ t) (hts : t ≤ s) : s = t := by
  have hbits : s.bits = t.bits := Nat.eq_of_testBit_eq fun i => Bool.eq_iff_iff.2 ⟨hst i, hts i⟩
  cases s
  cases t
  exact congrArg Positions.mk hbits

theorem le_all_iff : s ≤ all n ↔ ∀ i, s.mem i = true → i ≤ n :=
  forall₂_congr fun i _ => by rw [mem_all, decide_eq_true_iff]

def members (n : Nat) (s : Positions) : Finset Nat := (Finset.range (n + 1)).filter (s.mem · = true)

theorem mem_members {i : Nat} : i ∈ s.members n ↔ i < n + 1 ∧ s.mem i = true := by
  rw [members, Finset.mem_filter, Finset.mem_range]

theorem card_members_lt (hst : s ≤ t) (hne : t ≠ s) (ht : t ≤ all n) :
    (s.members n).card < (t.members n).card := by
  have hsubset : s.members n ⊆ t.members n := by
    intro i hi
    rw [mem_members] at hi ⊢
    exact ⟨hi.1, hst i hi.2⟩
  refine Finset.card_lt_card (hsubset.ssubset_of_ne ?_)
  intro heq
  refine hne (le_antisymm ?_ hst)
  intro i hi
  have hmem : i ∈ t.members n := mem_members.2 ⟨Nat.lt_succ_of_le (le_all_iff.1 ht i hi), hi⟩
  exact (mem_members.1 (heq ▸ hmem)).2

theorem all_le_of_card (hc : n + 1 ≤ (s.members n).card) : all n ≤ s := by
  have hsubset : s.members n ⊆ Finset.range (n + 1) := Finset.filter_subset _ _
  have heq := Finset.eq_of_subset_of_card_le hsubset (by rwa [Finset.card_range])
  intro i hi
  have hmem : i ∈ s.members n := by
    rw [heq, Finset.mem_range, Nat.lt_succ_iff]
    simpa using hi
  exact (mem_members.1 hmem).2

end Positions

section Closure

open Positions

variable {f : Positions → Positions} {goal found : Positions} {n : Nat}

theorem of_mem_closure {P : Nat → Prop} (hgoal : ∀ i, goal.mem i = true → P i)
    (hf : ∀ s : Positions, (∀ i, s.mem i = true → P i) → ∀ i, (f s).mem i = true → P i)
    (rounds : Nat) (hfound : ∀ i, found.mem i = true → P i) :
    ∀ i, (closure f goal rounds found).mem i = true → P i := by
  induction rounds generalizing found with
  | zero => exact hfound
  | succ rounds ih =>
    intro i hi
    rw [closure] at hi
    split at hi
    · exact hfound i hi
    · refine ih ?_ i hi
      intro j hj
      rw [mem_union, Bool.or_eq_true] at hj
      exact hj.elim (hgoal j) (hf found hfound j)

/-- Every round that is not the last one adds a position, and there are `n + 1` of them. -/
theorem closure_closed (hmono : ∀ s t : Positions, s ≤ t → t ≤ all n → f s ≤ f t)
    (hin : ∀ s : Positions, s ≤ all n → f s ≤ all n) (hgoal : goal ≤ all n) (rounds : Nat)
    (hfound : found ≤ all n) (hnext : found ≤ goal.union (f found))
    (hrounds : n + 1 ≤ rounds + (found.members n).card) :
    goal.union (f (closure f goal rounds found)) = closure f goal rounds found := by
  have hnext_in : goal.union (f found) ≤ all n := by
    intro i hi
    rw [mem_union, Bool.or_eq_true] at hi
    exact hi.elim (hgoal i) (hin found hfound i)
  induction rounds generalizing found with
  | zero =>
    have hall := all_le_of_card (s := found) (n := n) (by omega)
    exact le_antisymm (fun i hi => hall i (hnext_in i hi)) hnext
  | succ rounds ih =>
    rw [closure]
    split
    · assumption
    · next hne =>
      have hlt := card_members_lt (n := n) hnext hne hnext_in
      have hstep : f found ≤ f (goal.union (f found)) := hmono _ _ hnext hnext_in
      refine ih hnext_in ?_ (by omega) ?_
      · intro i hi
        rw [mem_union, Bool.or_eq_true] at hi ⊢
        exact hi.imp_right (hstep i)
      · intro i hi
        rw [mem_union, Bool.or_eq_true] at hi
        exact hi.elim (hgoal i) (hin _ hnext_in i)

end Closure

section Reach

open Positions

variable {n : Nat} {p : Located} {goal : Positions}

theorem le_all_of_leads {s : Positions} (hgoal : goal ≤ all n)
    (hs : ∀ i, s.mem i = true → ∃ j, goal.mem j = true ∧ Leads p i j) : s ≤ all n := by
  rw [le_all_iff]
  intro i hi
  obtain ⟨j, hj, hl⟩ := hs i hi
  exact hl.le.trans (le_all_iff.1 hgoal j hj)

/-- A closure holds the positions from which a repetition leads to the goal, if the rounds reach
what the body does. -/
theorem mem_closure_iff (hp : ∀ goal : Positions, goal ≤ all n →
      ∀ i, (reach n p goal).mem i = true ↔ ∃ j, goal.mem j = true ∧ Leads p i j)
    (hgoal : goal ≤ all n) (greedy : Bool) (i : Nat) :
    (closure (reach n p) goal (n + 1) goal).mem i = true ↔
      ∃ j, goal.mem j = true ∧ Leads (.star greedy p) i j := by
  have hmono : ∀ s t : Positions, s ≤ t → t ≤ all n → reach n p s ≤ reach n p t := by
    intro s t hst ht i hi
    obtain ⟨j, hj, hl⟩ := (hp s (fun i hi => ht i (hst i hi)) i).1 hi
    exact (hp t ht i).2 ⟨j, hst j hj, hl⟩
  have hin : ∀ s : Positions, s ≤ all n → reach n p s ≤ all n :=
    fun s hs => le_all_of_leads hs fun i => (hp s hs i).1
  constructor
  · have hnil : ∀ i, goal.mem i = true → ∃ j, goal.mem j = true ∧ Leads (.star greedy p) i j :=
      fun i hi => ⟨i, hi, .starNil greedy p i⟩
    refine of_mem_closure (P := fun i => ∃ j, goal.mem j = true ∧ Leads (.star greedy p) i j)
      hnil ?_ (n + 1) hnil i
    intro s hs i hi
    obtain ⟨j, hj, hl⟩ := (hp s (le_all_of_leads hgoal hs) i).1 hi
    obtain ⟨k, hk, hrest⟩ := hs j hj
    exact ⟨k, hk, .starCons hl hrest⟩
  · rintro ⟨j, hj, hl⟩
    have hclosed := closure_closed (n := n) hmono hin hgoal (n + 1) hgoal
      (fun i hi => by rw [mem_union, hi, Bool.true_or]) (Nat.le_add_right _ _)
    have hfound_in : closure (reach n p) goal (n + 1) goal ≤ all n := by
      rw [le_all_iff]
      exact of_mem_closure (le_all_iff.1 hgoal) (fun s hs => le_all_iff.1 (hin s (le_all_iff.2 hs)))
        (n + 1) (le_all_iff.1 hgoal)
    generalize hq : Shape.star greedy p = q at hl
    induction hl with
    | starNil => rw [← hclosed, mem_union, hj, Bool.true_or]
    | starCons hbody hrest ihbody ih =>
      cases hq
      rw [← hclosed, mem_union, Bool.or_eq_true]
      exact .inr ((hp _ hfound_in _).2 ⟨_, ih hj rfl, hbody⟩)
    | _ => cases hq

/-- The positions that are computed for a goal are those from where a match leads to it. -/
theorem mem_reach_iff (hgoal : goal ≤ all n) (i : Nat) :
    (reach n p goal).mem i = true ↔ ∃ j, goal.mem j = true ∧ Leads p i j := by
  induction p generalizing goal i with
  | empty => simp [reach]
  | one s =>
    rw [reach, mem_inter, mem_before, Bool.and_eq_true]
    constructor
    · rintro ⟨hs, hi⟩
      exact ⟨i + 1, hi, .one hs⟩
    · rintro ⟨j, hj, hl⟩
      obtain ⟨hs, rfl⟩ := leads_one_iff.1 hl
      exact ⟨hs, hj⟩
  | place s =>
    rw [reach, mem_inter, Bool.and_eq_true]
    constructor
    · rintro ⟨hs, hi⟩
      exact ⟨i, hi, .place hs⟩
    · rintro ⟨j, hj, hl⟩
      obtain ⟨hs, rfl⟩ := leads_place_iff.1 hl
      exact ⟨hs, hj⟩
  | seq p q ihp ihq =>
    have hq_in : reach n q goal ≤ all n := le_all_of_leads hgoal fun i => (ihq hgoal i).1
    rw [reach, ihp hq_in]
    constructor
    · rintro ⟨j, hj, hl⟩
      obtain ⟨k, hk, hrest⟩ := (ihq hgoal j).1 hj
      exact ⟨k, hk, .seq hl hrest⟩
    · rintro ⟨k, hk, hl⟩
      obtain ⟨j, hl, hrest⟩ := leads_seq_iff.1 hl
      exact ⟨j, (ihq hgoal j).2 ⟨k, hk, hrest⟩, hl⟩
  | alt p q ihp ihq =>
    simp only [reach, mem_union, Bool.or_eq_true, ihp hgoal, ihq hgoal, leads_alt_iff, and_or_left,
      exists_or]
  | opt greedy p ih =>
    simp only [reach, mem_union, Bool.or_eq_true, ih hgoal, leads_opt_iff, and_or_left, exists_or,
      exists_eq_right']
  | star greedy p ih => exact mem_closure_iff (fun goal hgoal i => ih hgoal i) hgoal greedy i
  | plus greedy p ih =>
    have hrest := mem_closure_iff (fun goal hgoal i => ih hgoal i) hgoal greedy
    have hrest_in : closure (reach n p) goal (n + 1) goal ≤ all n :=
      le_all_of_leads hgoal fun i => (hrest i).1
    rw [reach, ih hrest_in]
    constructor
    · rintro ⟨j, hj, hl⟩
      obtain ⟨k, hk, hr⟩ := (hrest j).1 hj
      exact ⟨k, hk, .plus hl hr⟩
    · rintro ⟨k, hk, hl⟩
      obtain ⟨j, hl, hr⟩ := leads_plus_iff.1 hl
      exact ⟨j, (hrest j).2 ⟨k, hk, hr⟩, hl⟩
  | group index p ih => simp only [reach, ih hgoal, leads_group_iff]

end Reach

end Dictation.Pattern
