import Mathlib.Algebra.Order.BigOperators.Group.List
import Mathlib.Algebra.Order.Group.Nat
import Mathlib.Data.List.Forall2
import Dictation.Proofs.Pattern.Simulation

namespace Dictation.Pattern

/-- The first pattern is as deep and as heavy as the second. -/
def Node.Covers (n k : Node) : Prop := k.depth ≤ n.depth ∧ k.weight ≤ n.weight

variable {n k : Node} {ns ks : List Node}

theorem Node.Covers.refl (n : Node) : n.Covers n := ⟨Nat.le_refl _, Nat.le_refl _⟩

theorem le_totalWeight (h : n ∈ ns) : n.weight ≤ totalWeight ns := by
  rw [totalWeight, ← List.foldl_map (f := Node.weight) (g := (· + ·)), ← List.sum_eq_foldl]
  exact List.le_sum_of_mem (List.mem_map_of_mem h)

theorem depth_le_foldl_max (h : n ∈ ns) : n.depth ≤ (ns.map Node.depth).foldl max 0 := by
  rw [List.foldl_max]
  exact Nat.le_trans (List.le_max?_getD_of_mem (List.mem_map_of_mem h)) (Nat.le_max_right 0 _)

theorem totalWeight_mono (h : List.Forall₂ Node.Covers ns ks) : totalWeight ks ≤ totalWeight ns :=
  List.rel_foldl (P := fun a b : Nat => b ≤ a) (fun _ _ hab _ _ hnk => Nat.add_le_add hab hnk.2)
    (Nat.le_refl 0) h

theorem foldl_max_mono (h : List.Forall₂ Node.Covers ns ks) :
    (ks.map Node.depth).foldl max 0 ≤ (ns.map Node.depth).foldl max 0 := by
  rw [List.foldl_map, List.foldl_map]
  exact List.rel_foldl (P := fun a b : Nat => b ≤ a) (fun _ _ hab _ _ hnk => max_le_max hab hnk.1)
    (Nat.le_refl 0) h

section Holds

variable {g : Inside}

def Inside.Holds (k : Node) (g : Inside) : Prop :=
  (∃ n ∈ g.alternatives, n.Covers k) ∨ ∃ n, .node n ∈ g.parts ∧ n.Covers k

namespace Inside

theorem covers_sequence (hn : .node n ∈ g.parts) (h : n.Covers k) : g.sequence.Covers k := by
  have hmem : n ∈ (g.parts.filterMap Part.node?).reverse :=
    List.mem_reverse.2 (List.mem_filterMap.2 ⟨.node n, hn, rfl⟩)
  have hdepth := Nat.le_trans h.1 (depth_le_foldl_max hmem)
  refine ⟨?_, Nat.le_trans h.2 (le_totalWeight hmem)⟩
  simp only [sequence]
  split
  · exact hdepth
  · exact Nat.le_succ_of_le hdepth

theorem Holds.toNode (h : g.Holds k) : g.toNode.Covers k := by
  unfold Inside.toNode
  split
  · next hempty =>
    obtain ⟨n, hn, -⟩ | ⟨n, hn, hcovers⟩ := h
    · rw [List.isEmpty_iff.1 hempty] at hn
      cases hn
    · exact covers_sequence hn hcovers
  · have hmem : ∃ n ∈ (g.sequence :: g.alternatives).reverse, n.Covers k := by
      obtain ⟨n, hn, hcovers⟩ | ⟨n, hn, hcovers⟩ := h
      · exact ⟨n, List.mem_reverse.2 (List.mem_cons_of_mem _ hn), hcovers⟩
      · exact ⟨g.sequence, List.mem_reverse.2 List.mem_cons_self, covers_sequence hn hcovers⟩
    obtain ⟨n, hn, hcovers⟩ := hmem
    have hweight := le_totalWeight hn
    exact ⟨Nat.le_succ_of_le (Nat.le_trans hcovers.1 (depth_le_foldl_max hn)),
      Nat.le_trans hcovers.2 (by dsimp only; omega)⟩

theorem Holds.add (h : g.Holds k) (p : Part) : (g.add p).Holds k :=
  h.imp_right fun ⟨n, hn, hcovers⟩ => ⟨n, List.mem_cons_of_mem p hn, hcovers⟩

theorem holds_add (h : n.Covers k) : (g.add (.node n)).Holds k := .inr ⟨n, List.mem_cons_self, h⟩

theorem Holds.nextAlternative (h : g.Holds k) : g.nextAlternative.Holds k := by
  left
  obtain ⟨n, hn, hcovers⟩ | ⟨n, hn, hcovers⟩ := h
  · exact ⟨n, List.mem_cons_of_mem _ hn, hcovers⟩
  · exact ⟨g.sequence, List.mem_cons_self, covers_sequence hn hcovers⟩

end Inside

end Holds

namespace Reading

section Effects

variable {s s' e : Reading} {c : Char} {t u : Text}

inductive Effect (s : Reading) : Reading → Prop
  | node (n : Node) : Effect s (s.addNode n)
  | flags (f : Flags) : Effect s { s with flags := f, inside := s.inside.add .flags }
  | opened (index : Option Nat) (f : Flags) (groups : Nat) (names : List (Text × Nat)) :
      Effect s { s.openGroup index f with groups, names }
  | closed {s' : Reading} (h : s.closeGroup? = some s') : Effect s s'
  | alternative : Effect s { s with inside := s.inside.nextAlternative }
  | repeated {s' : Reading} {least : Nat} {most : Option Nat} {lazy : Bool}
      (h : s.repeat? least most lazy = some s') : Effect s s'

theorem effect_of_openNamed? (h : s.openNamed? t = some (s', u)) : Effect s s' := by
  obtain ⟨⟨name, r⟩, -, h⟩ := Option.bind_eq_some_iff.1 h
  dsimp only at h
  split at h
  · cases h
  · cases h
    exact .opened (some (s.groups + 1)) s.flags (s.groups + 1) ((name, s.groups + 1) :: s.names)

theorem effect_of_switch? (h : s.switch? t = some (s', u)) : Effect s s' := by
  rw [switch?_eq] at h
  obtain ⟨⟨⟨isGroup, flags, seen⟩, r⟩, -, h⟩ := Option.bind_eq_some_iff.1 h
  cases isGroup with
  | true =>
    cases h
    exact .opened none flags s.groups s.names
  | false =>
    cases seen with
    | nil => cases h
    | cons =>
      cases h
      exact .flags flags

theorem effect_of_group? (h : s.group? t = some (s', u)) : Effect s s' := by
  by_cases ht : (s.flags.skip t).head? = some '?'
  · obtain ⟨r, hr⟩ := List.head?_eq_some_iff.1 ht
    rw [group?_of_question hr, special?] at h
    split_ifs at h
    · exact effect_of_openNamed? h
    · exact effect_of_openNamed? h
    · exact effect_of_switch? h
  · rw [group?_of_ne_question ht] at h
    cases h
    exact .opened (some (s.groups + 1)) s.flags (s.groups + 1) s.names

theorem effect_of_uncounted? {least : Nat} {most : Option Nat}
    (h : s.uncounted? least most t = some (s', u)) : Effect s s' := by
  unfold uncounted? at h
  split at h
  · obtain ⟨r, hr, h⟩ := Option.map_eq_some_iff.1 h
    cases h
    exact .repeated hr
  · obtain ⟨r, hr, h⟩ := Option.map_eq_some_iff.1 h
    cases h
    exact .repeated hr

theorem effect_of_counted? (h : s.counted? t = some (s', u)) : Effect s s' := by
  have hclose {least : Nat} {most : Option Nat} {t : Text}
    (h : counted?.close s least most t = some (s', u)) :
      Effect s s' := effect_of_uncounted? h
  unfold counted? at h
  split at h
  · split at h
    · obtain ⟨least, -, h⟩ := Option.bind_eq_some_iff.1 h
      exact hclose h
    · split at h
      · obtain ⟨least, -, h⟩ := Option.bind_eq_some_iff.1 h
        obtain ⟨most, -, h⟩ := Option.bind_eq_some_iff.1 h
        split at h
        · exact hclose h
        · cases h
      · cases h
  · obtain ⟨least, -, h⟩ := Option.bind_eq_some_iff.1 h
    exact hclose h
  · cases h

theorem effect_of_step? (h : s.step? c t = some (s', u)) : Effect s s' := by
  have hmade {α : Type} {o : Option (α × Text)} {g : α → Node}
      (h : o.map (fun x => (s.addNode (g x.1), x.2)) = some (s', u)) : Effect s s' := by
    obtain ⟨x, -, h⟩ := Option.map_eq_some_iff.1 h
    cases h
    exact .node _
  unfold step? at h
  split at h
  · exact effect_of_group? h
  · obtain ⟨r, hr, h⟩ := Option.map_eq_some_iff.1 h
    cases h
    exact .closed hr
  · cases h
    exact .alternative
  · exact hmade (g := fun r : ReadSet => ⟨.one r.set, r.depth, r.weight⟩) h
  · exact effect_of_uncounted? h
  · exact effect_of_uncounted? h
  · exact effect_of_uncounted? h
  · exact effect_of_counted? h
  · exact hmade h
  · obtain ⟨x, -, h⟩ := Option.map_eq_some_iff.1 h
    cases h
    exact .node _
  all_goals
    cases h
    exact .node _

/-- Some part of what was read is as deep and as heavy as a pattern, in the group being read or
before one that is open. -/
def Holds (k : Node) (s : Reading) : Prop := s.inside.Holds k ∨ ∃ o ∈ s.stack, o.before.Holds k

theorem holds_of_closeGroup? (h : s.closeGroup? = some s') (hk : s.inside.toNode.Covers k) :
    s'.Holds k := by
  unfold closeGroup? at h
  split at h
  · cases h
  · cases h
    refine .inl (Inside.holds_add ?_)
    split
    · exact ⟨Nat.le_succ_of_le hk.1, Nat.le_add_right_of_le hk.2⟩
    · exact ⟨Nat.le_succ_of_le hk.1, hk.2⟩

theorem Holds.effect (h : s.Holds k) (he : Effect s s') : s'.Holds k := by
  cases he with
  | node n => exact h.imp_left fun h => h.add (.node n)
  | flags f => exact h.imp_left fun h => h.add .flags
  | opened index f groups names =>
    right
    obtain h | ⟨o, ho, h⟩ := h
    · exact ⟨_, List.mem_cons_self, h⟩
    · exact ⟨o, List.mem_cons_of_mem _ ho, h⟩
  | closed hclose =>
    obtain h | ⟨o, ho, h⟩ := h
    · exact holds_of_closeGroup? hclose h.toNode
    · unfold closeGroup? at hclose
      split at hclose
      · cases hclose
      · next g stack hs =>
        cases hclose
        rw [hs] at ho
        obtain rfl | ho := List.mem_cons.1 ho
        · exact .inl (h.add _)
        · exact .inr ⟨o, ho, h⟩
  | alternative => exact h.imp_left Inside.Holds.nextAlternative
  | repeated hrepeat =>
    unfold repeat? at hrepeat
    split at hrepeat
    · next n parts hparts =>
      dsimp only at hrepeat
      split at hrepeat
      · cases hrepeat
      · cases hrepeat
        refine h.imp_left fun h => h.imp_right ?_
        rintro ⟨i, hi, hcovers⟩
        rw [hparts] at hi
        obtain hi | hi := List.mem_cons.1 hi
        · cases hi
          have hcopies (j : Nat) : n.weight ≤ n.weight * max 1 j :=
            Nat.le_mul_of_pos_right _ (Nat.lt_of_lt_of_le Nat.one_pos (Nat.le_max_left 1 j))
          exact ⟨_, List.mem_cons_self, Nat.le_succ_of_le hcovers.1,
            Nat.le_trans hcovers.2 (Nat.le_trans (hcopies _) (Nat.le_add_right _ _))⟩
        · exact ⟨i, List.mem_cons_of_mem _ hi, hcovers⟩
    · cases hrepeat

/-- What has been read counts for the pattern at the end. -/
theorem Holds.run? {m : Nat} (h : s.Holds k) (he : run? m s t = some e) : e.Holds k := by
  induction m generalizing s t with
  | zero => cases he
  | succ m ih =>
    rw [Reading.run?] at he
    split at he
    · cases he
      exact h
    · obtain ⟨⟨s', u⟩, hstep, he⟩ := Option.bind_eq_some_iff.1 he
      exact ih (h.effect (effect_of_step? hstep)) he

end Effects

end Reading

section Lighter

inductive Part.Lighter : Part → Part → Prop
  | node {n k : Node} (h : n.Covers k) : Lighter (.node n) (.node k)
  | flags : Lighter .flags .flags

structure Inside.Lighter (g h : Inside) : Prop where
  alternatives : List.Forall₂ Node.Covers g.alternatives h.alternatives
  parts : List.Forall₂ Part.Lighter g.parts h.parts

structure Opened.Lighter (o p : Opened) : Prop where
  before : o.before.Lighter p.before
  index : p.index.isSome = o.index.isSome
  flags : p.flags = o.flags

/-- What the second reading has read is no deeper and no heavier than what the first has read, and
has no names that the first has not. -/
structure Reading.Lighter (s s' : Reading) : Prop where
  flags : s'.flags = s.flags
  names : s'.names.map (·.1) ⊆ s.names.map (·.1)
  inside : s.inside.Lighter s'.inside
  stack : List.Forall₂ Opened.Lighter s.stack s'.stack

namespace Inside.Lighter

variable {g h : Inside}

theorem nodes {ps qs : List Part} (h : List.Forall₂ Part.Lighter ps qs) :
    List.Forall₂ Node.Covers (ps.filterMap Part.node?) (qs.filterMap Part.node?) := by
  induction h with
  | nil => exact .nil
  | cons h _ ih =>
    cases h with
    | node h => exact .cons h ih
    | flags => exact ih

theorem sequence (hgh : g.Lighter h) : g.sequence.Covers h.sequence := by
  have hreverse := List.forall₂_reverse_iff.2 (nodes hgh.parts)
  have hdepth := foldl_max_mono hreverse
  refine ⟨?_, totalWeight_mono hreverse⟩
  simp only [Inside.sequence, hgh.parts.length_eq]
  split
  · exact hdepth
  · exact Nat.succ_le_succ hdepth

theorem toNode (hgh : g.Lighter h) : g.toNode.Covers h.toNode := by
  have hempty : h.alternatives.isEmpty = g.alternatives.isEmpty := by
    rw [Bool.eq_iff_iff, List.isEmpty_iff_length_eq_zero, List.isEmpty_iff_length_eq_zero,
      hgh.alternatives.length_eq]
  have hnodes := List.forall₂_reverse_iff.2 (.cons hgh.sequence hgh.alternatives)
  have hweight := totalWeight_mono hnodes
  have hlen := hnodes.length_eq
  unfold Inside.toNode
  rw [hempty]
  split
  · exact hgh.sequence
  · exact ⟨Nat.succ_le_succ (foldl_max_mono hnodes), by dsimp only; omega⟩

theorem add {p q : Part} (hgh : g.Lighter h) (hpq : p.Lighter q) : (g.add p).Lighter (h.add q) :=
  ⟨hgh.alternatives, .cons hpq hgh.parts⟩

end Inside.Lighter

namespace Reading

variable {s s' : Reading}

theorem Lighter.repeat? (h : s.Lighter s') (least : Nat) (most : Option Nat) (lazy : Bool) :
    Carries Lighter (s.repeat? least most lazy) (s'.repeat? least most lazy) := by
  intro r hr
  have hparts := h.inside.parts
  unfold Reading.repeat? at hr ⊢
  split at hr
  · next n parts hs =>
    rw [hs] at hparts
    obtain ⟨_, parts', ⟨hk⟩, hrest, hs'⟩ := List.forall₂_cons_left_iff.1 hparts
    rw [hs']
    dsimp only at hr ⊢
    split at hr
    · cases hr
    · next hlight =>
      cases hr
      have hweight := Nat.add_le_add_right
        (Nat.mul_le_mul_right (max 1 (most.getD (max least 1))) hk.2)
        (32 * max 1 (most.getD (max least 1)))
      rw [if_neg (fun hheavy => hlight (Nat.lt_of_lt_of_le hheavy hweight))]
      exact ⟨_, rfl, h.flags, h.names,
        ⟨h.inside.alternatives, .cons (.node ⟨Nat.succ_le_succ hk.1, hweight⟩) hrest⟩, h.stack⟩
  · cases hr

theorem Lighter.closeGroup? (h : s.Lighter s') : Carries Lighter s.closeGroup? s'.closeGroup? := by
  intro r hr
  have hstack := h.stack
  have hnode := h.inside.toNode
  unfold Reading.closeGroup? at hr ⊢
  split at hr
  · cases hr
  · next o stack hs =>
    rw [hs] at hstack
    obtain ⟨p, stack', ho, hrest, hs'⟩ := List.forall₂_cons_left_iff.1 hstack
    rw [hs']
    cases hr
    refine ⟨_, rfl, ho.flags, h.names, ho.before.add (.node ?_), hrest⟩
    have hindex := ho.index
    cases hi : o.index <;> cases hj : p.index <;> rw [hi, hj] at hindex
    · exact ⟨Nat.succ_le_succ hnode.1, hnode.2⟩
    · cases hindex
    · cases hindex
    · exact ⟨Nat.succ_le_succ hnode.1, Nat.add_le_add_right hnode.2 64⟩

theorem simulates_lighter : Simulates Lighter where
  flags h := h.flags
  node h _ := ⟨h.flags, h.names, h.inside.add (.node (.refl _)), h.stack⟩
  switched f h := ⟨rfl, h.names, h.inside.add .flags, h.stack⟩
  opened f h := ⟨rfl, h.names, ⟨.nil, .nil⟩, .cons ⟨h.inside, rfl, h.flags⟩ h.stack⟩
  captured h := ⟨h.flags, h.names, ⟨.nil, .nil⟩, .cons ⟨h.inside, rfl, h.flags⟩ h.stack⟩
  named {s s' name} h hname := by
    refine ⟨?_, h.flags, ?_, ⟨.nil, .nil⟩, .cons ⟨h.inside, rfl, h.flags⟩ h.stack⟩
    · rw [List.any_eq_false] at hname ⊢
      intro x hx
      obtain ⟨y, hy, hxy⟩ := List.mem_map.1 (h.names (List.mem_map_of_mem hx))
      exact hxy ▸ hname y hy
    · exact List.cons_subset_cons name h.names
  alternative h := ⟨h.flags, h.names, ⟨.cons h.inside.sequence h.inside.alternatives, .nil⟩,
    h.stack⟩
  repeated least most lazy h := h.repeat? least most lazy

end Reading

end Lighter

end Dictation.Pattern
