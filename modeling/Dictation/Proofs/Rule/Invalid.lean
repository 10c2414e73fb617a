import Dictation.Proofs.Pattern.Limits
import Dictation.Proofs.Pattern.Prefix.Run
import Dictation.Proofs.Rule.File
import Dictation.Proofs.Rule.Trigger

namespace Dictation

namespace Pattern

open Reading

variable {f : Flags} {t u : Text} {n m : Nat} {s e r : Reading}

theorem read?_isSome_iff : (read? f t).isSome ↔ ∃ r, run? (t.length + 1) { flags := f } t = some r ∧
    r.stack = [] ∧ r.inside.toNode.depth ≤ depthLimit ∧ r.inside.toNode.weight ≤ weightLimit := by
  rw [read?]
  cases run? (t.length + 1) { flags := f } t with
  | none => simp
  | some r => simp [Option.isSome_ite, and_assoc]

theorem run?_of_lt (h : run? n s t = some e) (hm : t.length < m) : run? m s t = some e := by
  induction n generalizing s t m with
  | zero => cases h
  | succ n ih =>
    obtain ⟨m, rfl⟩ := Nat.exists_eq_succ_of_ne_zero (Nat.ne_zero_of_lt hm)
    have hlen := length_skip_le s.flags t
    rw [run?] at h ⊢
    cases ht : s.flags.skip t with
    | nil =>
      rw [ht] at h
      exact h
    | cons c r =>
      rw [ht] at h hlen
      dsimp only at h ⊢
      obtain ⟨⟨s', u⟩, hstep, h⟩ := Option.bind_eq_some_iff.1 h
      have hu : u.length ≤ r.length := (suffix_of_step? hstep).length_le
      rw [List.length_cons] at hlen
      rw [hstep, Option.bind_some]
      exact ih (t := u) h (by omega)

end Pattern

namespace Trigger

open Pattern Pattern.Reading

variable {trigger x y : Text}

theorem pattern?_isSome_iff : (pattern? trigger).isSome ↔
    ∃ r, run? (trigger.length + 1) { flags := { ignoreCase := true } } trigger = some r ∧
      r.stack = [] ∧ r.inside.toNode.depth ≤ depthLimit ∧ r.inside.toNode.weight ≤ weightLimit := by
  rw [pattern?, Option.isSome_map]
  exact read?_isSome_iff

def wholeGroup : Opened :=
  ⟨{ parts := [.node ⟨.place .textStart, 0, 32⟩] }, some 1, { ignoreCase := true }⟩

theorem exists_run_of_wholeText (hhead : trigger.head? ≠ some '?')
    (h : (pattern? (wholeText trigger)).isSome) :
    ∃ m r, run? m (nest wholeGroup { flags := wholeGroup.flags }) (trigger ++ [')', '$']) = some r ∧
      r.stack = [] ∧ r.inside.toNode.depth ≤ depthLimit ∧ r.inside.toNode.weight ≤ weightLimit := by
  obtain ⟨r, hr, hrest⟩ := pattern?_isSome_iff.1 h
  rw [wholeText_eq] at hr
  obtain ⟨m, hr⟩ := exists_run_of_step { flags := wholeGroup.flags, inside := wholeGroup.before }
    rfl rfl hr
  have hopened : (trigger ++ [')', '$']).head? ≠ some '?' := by
    cases trigger with
    | nil => simp
    | cons c t => exact hhead
  obtain ⟨m, hr⟩ := exists_run_of_step _ rfl (step?_open rfl wholeGroup.before hopened) hr
  exact ⟨m, r, hr, hrest⟩

theorem isSome_wholeText {r : Reading} {m : Nat}
    (h : run? m ⟨wholeGroup.flags, 1, [], wholeGroup.before.add (.node ⟨.group 1 .empty, 1, 64⟩),
      []⟩
      (y ++ [')', '$']) = some r) (hstack : r.stack = [])
        (hdepth : r.inside.toNode.depth ≤ depthLimit)
    (hweight : r.inside.toNode.weight ≤ weightLimit) :
    (pattern? (wholeText (')' :: y))).isSome := by
  refine pattern?_isSome_iff.2 ⟨r, run?_of_lt (n := m + 3) ?_ (Nat.lt_succ_self _), hstack, hdepth,
    hweight⟩
  rw [wholeText_eq]
  exact h

/-- A closed group is no lighter than one that is closed at once. -/
theorem lighter_of_closeGroup? {e s : Reading} (hclosed : e.stack = [])
    (h : (e.nest wholeGroup).closeGroup? = some s) :
    s.Lighter ⟨wholeGroup.flags, 1, [], wholeGroup.before.add (.node ⟨.group 1 .empty, 1, 64⟩),
      []⟩ := by
  have hstack : (e.nest wholeGroup).stack = [wholeGroup] := by
    rw [nest, hclosed]
    rfl
  rw [closeGroup?, hstack] at h
  cases h
  have hnode : (.node ⟨.group 1 (e.nest wholeGroup).inside.toNode.pattern,
    (e.nest wholeGroup).inside.toNode.depth + 1,
      (e.nest wholeGroup).inside.toNode.weight + 64⟩ :
        Part).Lighter (.node ⟨.group 1 .empty, 1, 64⟩) :=
    .node ⟨Nat.le_add_left 1 _, Nat.le_add_left 64 _⟩
  exact ⟨rfl, List.nil_subset _, ⟨.nil, .cons hnode (.cons (.node (.refl _)) .nil)⟩, .nil⟩

/-- Where the form for a whole utterance is a pattern, the trigger is one, or it consists of a
pattern, a parenthesis that closes the group around it, and what is in place behind that group. -/
theorem of_wholeText (hhead : trigger.head? ≠ some '?')
    (h : (pattern? (wholeText trigger)).isSome) :
    (pattern? trigger).isSome ∨ ∃ x y, trigger = x ++ ')' :: y ∧ (pattern? x).isSome ∧
      (pattern? (wholeText (')' :: y))).isSome := by
  obtain ⟨m, r, hr, hstack, hdepth, hweight⟩ := exists_run_of_wholeText hhead h
  obtain ⟨e, u, v, m, s, hreaches, hu, hclosed, hclose, hr⟩ := exists_reaches_of_run? hr hstack
  obtain ⟨x, hx⟩ : ')' :: v <:+ trigger ++ [')', '$'] :=
    (hu ▸ skip_suffix e.flags u).trans hreaches.suffix
  have hpattern : (pattern? x).isSome := by
    have hrun := run?_of_reaches rfl hreaches hu hx.symm (Nat.lt_succ_self x.length)
    have hholds : s.Holds e.inside.toNode := by
      refine holds_of_closeGroup? hclose ?_
      rw [nest, Inside.shift_toNode]
      exact .refl _
    have hcovers : r.inside.toNode.Covers e.inside.toNode := by
      obtain h | ⟨o, ho, -⟩ := hholds.run? hr
      · exact h.toNode
      · rw [hstack] at ho
        cases ho
    exact pattern?_isSome_iff.2 ⟨e, hrun, hclosed, Nat.le_trans hcovers.1 hdepth,
      Nat.le_trans hcovers.2 hweight⟩
  obtain ⟨_ | ⟨c, y⟩, rfl, hy⟩ | ⟨y, rfl, hy⟩ := List.append_eq_append_iff.1 hx
  · rw [List.append_nil]
    exact .inl hpattern
  · -- The trigger closes the group itself.
    obtain ⟨rfl, rfl⟩ := List.cons.inj hy
    obtain ⟨r', hr', hlighter⟩ :=
      simulates_lighter.run? (fun _ _ h => h.closeGroup?)
        (lighter_of_closeGroup? hclosed hclose) r hr
    have hcovers := hlighter.inside.toNode
    have hstack' : r'.stack = [] := by
      have := hlighter.stack
      rw [hstack] at this
      exact List.forall₂_nil_left_iff.1 this
    exact .inr ⟨x, y, rfl, hpattern, isSome_wholeText hr' hstack' (Nat.le_trans hcovers.1 hdepth)
      (Nat.le_trans hcovers.2 hweight)⟩
  · obtain _ | ⟨c, _ | ⟨d, y⟩⟩ := y
    · rw [List.append_nil] at hpattern
      exact .inl hpattern
    · cases hy
    · cases y <;> cases hy

end Trigger

namespace Rule

open Trigger (pattern? wholeText)

variable {r : Rule}

theorem isMatchable_eq_false (hinvalid : pattern? r.trigger = none)
    (hhead : r.trigger.head? ≠ some '?')
    (hclosed : ∀ x y, r.trigger = x ++ ')' :: y → (pattern? x).isSome →
      pattern? (wholeText (')' :: y)) = none) :
    r.isMatchable = false := by
  rw [isMatchable, Bool.eq_false_iff]
  intro hmatchable
  obtain ⟨t, ht⟩ := Option.isSome_iff_exists.1 hmatchable
  obtain h | ⟨x, y, hsplit, hx, hy⟩ := Trigger.of_wholeText hhead ((Trigger.of_read? ht).1 ▸ rfl)
  · rw [hinvalid] at h
    cases h
  · rw [hclosed x y hsplit hx] at hy
    cases hy

/-- A rule whose trigger is no pattern is kept, with a warning, and never matches. Two kinds of
triggers are set aside: those that begin with a question mark, which the parenthesis in front of it
makes the mark of a group, and those that close the group around them where the rest is in place
behind it. -/
theorem inert_of_invalid (hinvalid : pattern? r.trigger = none) (hhead : r.trigger.head? ≠ some '?')
    (hclosed : ∀ x y, r.trigger = x ++ ')' :: y → (pattern? x).isSome →
      pattern? (wholeText (')' :: y)) = none) :
    r.isMatchable = false ∧
      (∀ t, r ∈ (RuleSet.read t).rules → ⟨r.line, .trigger r.trigger⟩ ∈ (RuleSet.read t).warnings) ∧
      ∀ u, r.matchesWhole u = false ∧ r.tailMatch? u = none ∧ r.spokenTailMatch? u = none := by
  have hmatchable := isMatchable_eq_false hinvalid hhead hclosed
  have htrigger : r.trigger? = none :=
    Option.isNone_iff_eq_none.1 (Option.isSome_eq_false_iff.1 hmatchable)
  refine ⟨hmatchable, fun t ht => ?_, fun u => ?_⟩
  · have hwarned : ⟨r.line, .trigger r.trigger⟩ ∈ ((RuleSet.read t).onLine r.line).warnings := by
      rw [RuleSet.onLine_of_mem_read ht, RuleSet.warnings_ofRule, hmatchable]
      exact List.mem_cons_self
    exact (List.mem_filter.1 hwarned).1
  · simp only [matchesWhole, tailMatch?, spokenTailMatch?, beforeTail?, beforeSpokenTail?, htrigger,
      Option.any_none, Option.bind_none, Option.map_none, and_self]

theorem inert_of_invalid_parenthesis :
    let r : Rule := ⟨['(', '.', ')', ')'], .substitution ['x'], 2⟩
    let t : Text := ['2', '.', '\n', '(', '.', ')', ')', '=', 'x']
    pattern? r.trigger = none ∧ r.trigger.head? ≠ some '?' ∧
      (∀ x y, r.trigger = x ++ ')' :: y → (pattern? x).isSome →
        pattern? (wholeText (')' :: y)) = none) ∧
      r ∈ (RuleSet.read t).rules ∧ r.isMatchable = false ∧
        ⟨2, .trigger r.trigger⟩ ∈ (RuleSet.read t).warnings ∧
      ∀ u, r.matchesWhole u = false ∧ r.tailMatch? u = none ∧ r.spokenTailMatch? u = none := by
  intro r t
  have hinvalid : pattern? r.trigger = none := by decide +kernel
  have hclosed : ∀ x y, r.trigger = x ++ ')' :: y → (pattern? x).isSome →
      pattern? (wholeText (')' :: y)) = none := by
    -- The group ends where the trigger does, or what stands in it is no pattern.
    intro x y h hx
    obtain _ | ⟨a, _ | ⟨b, _ | ⟨c, _ | ⟨d, _ | ⟨e, x⟩⟩⟩⟩⟩ := x <;> cases h
    · have hopen : pattern? ['(', '.'] = none := by decide +kernel
      rw [hopen] at hx
      cases hx
    · decide +kernel
  have hmem : r ∈ (RuleSet.read t).rules := by decide
  obtain ⟨hmatchable, hwarned, hnever⟩ := inert_of_invalid hinvalid (by decide) hclosed
  exact ⟨hinvalid, by decide, hclosed, hmem, hmatchable, hwarned t hmem, hnever⟩

/-- A trigger that closes the group around it and opens another one is no pattern, yet its forms
are. -/
theorem not_inert_alternatives :
    let r : Rule := ⟨['.', ')', '|', '(', '.'], .substitution ['x'], 1⟩
    pattern? r.trigger = none ∧ r.isMatchable = true ∧ r.matchesWhole ['a'] = true := by
  decide +kernel

end Rule

end Dictation
