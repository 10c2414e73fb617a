import Dictation.Routing
import Dictation.Proofs.Text.Trim

namespace Dictation

theorem Rule.matchesWhole_trim (r : Rule) (u : Text) :
    r.matchesWhole u.trim = r.matchesWhole u := by
  rw [matchesWhole, matchesWhole, Text.trim_trim]

theorem Rule.isMatchable_of_matchesWhole {r : Rule} {u : Text} (h : r.matchesWhole u = true) :
    r.isMatchable = true := by
  rw [matchesWhole] at h
  rw [isMatchable]
  cases ht : r.trigger? with
  | none =>
    rw [ht] at h
    cases h
  | some t => rfl

theorem Rule.isPrefix_of_beforeTail? {r : Rule} {u before : Text}
    (h : r.beforeTail? u = some before) : before <+: u := by
  obtain ⟨t, -, h⟩ := Option.bind_eq_some_iff.1 h
  obtain ⟨i, -, rfl⟩ := Option.map_eq_some_iff.1 h
  exact List.take_prefix i u

def Route.rule? : Route → Option Rule
  | rule r => some r
  | _ => none

@[simp] theorem Route.rule?_eq_some_iff {route : Route} {r : Rule} :
    route.rule? = some r ↔ route = .rule r := by
  cases route <;> simp [rule?]

def Rule.tail? (c : Command) (u : Text) (r : Rule) : Option TailMatch :=
  if r.command? = some c then (r.beforeTail? u).map (⟨r, ·⟩) else none

theorem Tails.of?_add {c : Command} (hc : c.isTail = true) (u : Text) (tails : Tails) (r : Rule) :
    (tails.add u r).of? c = (tails.of? c).or (r.tail? c u) := by
  have hfirst (place : Option TailMatch) :
      add.first u r place = place.or ((r.beforeTail? u).map (⟨r, ·⟩)) := by
    cases place <;> rfl
  cases hr : r.command? with
  | none => simp [add, Rule.tail?, hr]
  | some d =>
    cases c with
    | process | execute | discard => cases d <;> simp [add, Rule.tail?, hr, of?, hfirst]
    | undo | redo | stop => cases hc

/-- What one pass over rules leaves for a command is what it had before, or else the first rule of
that command. -/
theorem Tails.of?_foldl_add {c : Command} (hc : c.isTail = true) (u : Text) (tails : Tails)
    (rules : List Rule) :
    (rules.foldl (add u) tails).of? c = (tails.of? c).or (rules.findSome? (·.tail? c u)) := by
  induction rules generalizing tails with
  | nil => rw [List.foldl_nil, List.findSome?_nil, Option.or_none]
  | cons r rules ih =>
    rw [List.foldl_cons, ih, of?_add hc, Option.or_assoc, List.findSome?_cons]
    cases r.tail? c u <;> rfl

namespace RuleSet

variable {set : RuleSet} {u : Text} {r : Rule}

theorem tail?_eq_findSome? {c : Command} (hc : c.isTail = true) (set : RuleSet) (u : Text) :
    set.tail? c u = set.rules.findSome? (·.tail? c u) := by
  have hnone : Tails.of? {} c = none := by cases c <;> rfl
  rw [tail?, tails, Tails.of?_foldl_add hc, hnone, Option.none_or]

theorem isTail_of_tail?_eq_some {c : Command} {m : TailMatch} (h : set.tail? c u = some m) :
    c.isTail = true := by
  cases c with
  | process | execute | discard => rfl
  | undo | redo | stop => cases h

theorem of_tail?_eq_some {c : Command} {m : TailMatch} (h : set.tail? c u = some m) :
    m.rule ∈ set.rules ∧ m.rule.command? = some c ∧ m.rule.beforeTail? u = some m.before := by
  rw [tail?_eq_findSome? (isTail_of_tail?_eq_some h)] at h
  obtain ⟨r, hr, h⟩ := List.exists_of_findSome?_eq_some h
  rw [Rule.tail?] at h
  split at h
  · next hc =>
    obtain ⟨before, hbefore, rfl⟩ := Option.map_eq_some_iff.1 h
    exact ⟨hr, hc, hbefore⟩
  · cases h

theorem of_whole?_eq_some (h : set.whole? u = some r) : r ∈ set.rules ∧ r.matchesWhole u = true :=
  ⟨List.mem_of_find?_eq_some h, List.find?_some (p := fun r : Rule => r.matchesWhole u) h⟩

theorem tail?_isSome {c : Command} (hct : c.isTail = true) (hr : r ∈ set.rules)
    (hc : r.command? = some c)
    (ht : (r.beforeTail? u).isSome = true) : (set.tail? c u).isSome = true := by
  rw [tail?_eq_findSome? hct, List.findSome?_isSome_iff]
  exact ⟨r, hr, by rwa [Rule.tail?, if_pos hc, Option.isSome_map]⟩

theorem route_eq (set : RuleSet) (u : Text) : set.route u =
    match set.tail? .process u with
    | some m => .process m.before
    | none =>
      match set.tail? .execute u with
      | some m => .execute m.before
      | none =>
        if (set.tail? .discard u).isSome then .discard
        else match set.whole? u with
          | some r => .rule r
          | none => .dictation := rfl

theorem route_cases (set : RuleSet) (u : Text) :
    (∃ m, set.tail? .process u = some m ∧ set.route u = .process m.before) ∨
    (∃ m, set.tail? .execute u = some m ∧ set.route u = .execute m.before) ∨
    set.route u = .discard ∨
    (∀ c : Command, c.isTail = true → set.tail? c u = none) ∧
      ((∃ r, set.whole? u = some r ∧ set.route u = .rule r) ∨
        set.whole? u = none ∧ set.route u = .dictation) := by
  cases hp : set.tail? .process u with
  | some m => exact .inl ⟨m, rfl, by rw [route_eq, hp]⟩
  | none =>
    cases he : set.tail? .execute u with
    | some m => exact .inr (.inl ⟨m, rfl, by rw [route_eq, hp, he]⟩)
    | none =>
      cases hd : set.tail? .discard u with
      | some m => exact .inr (.inr (.inl (by simp [route_eq, hp, he, hd])))
      | none =>
        refine .inr (.inr (.inr ⟨?_, ?_⟩))
        · intro c hc
          cases c with
          | process => exact hp
          | execute => exact he
          | discard => exact hd
          | undo | redo | stop => cases hc
        · cases hw : set.whole? u with
          | some r => exact .inl ⟨r, rfl, by simp [route_eq, hp, he, hd, hw]⟩
          | none => exact .inr ⟨rfl, by simp [route_eq, hp, he, hd, hw]⟩

theorem tail?_of_route_process {before : Text} (h : set.route u = .process before) :
    ∃ m, set.tail? .process u = some m ∧ m.before = before := by
  obtain ⟨m, hm, hr⟩ | ⟨m, hm, hr⟩ | hr | ⟨-, ⟨r, -, hr⟩ | ⟨-, hr⟩⟩ := set.route_cases u
  · exact ⟨m, hm, Route.process.inj (hr.symm.trans h)⟩
  all_goals cases hr.symm.trans h

theorem tail?_of_route_execute {before : Text} (h : set.route u = .execute before) :
    ∃ m, set.tail? .execute u = some m ∧ m.before = before := by
  obtain ⟨m, hm, hr⟩ | ⟨m, hm, hr⟩ | hr | ⟨-, ⟨r, -, hr⟩ | ⟨-, hr⟩⟩ := set.route_cases u
  · cases hr.symm.trans h
  · exact ⟨m, hm, Route.execute.inj (hr.symm.trans h)⟩
  all_goals cases hr.symm.trans h

/-- A rule fires on a whole utterance only where no trigger ends it. -/
theorem of_route_rule (h : set.route u = .rule r) :
    set.whole? u = some r ∧ ∀ c : Command, c.isTail = true → set.tail? c u = none := by
  obtain ⟨m, -, hr⟩ | ⟨m, -, hr⟩ | hr | ⟨ht, ⟨r', hw, hr⟩ | ⟨-, hr⟩⟩ := set.route_cases u
  · cases hr.symm.trans h
  · cases hr.symm.trans h
  · cases hr.symm.trans h
  · obtain rfl := Route.rule.inj (hr.symm.trans h)
    exact ⟨hw, ht⟩
  · cases hr.symm.trans h

theorem whole?_trim (set : RuleSet) (u : Text) : set.whole? u.trim = set.whole? u := by
  simp only [whole?, Rule.matchesWhole_trim]

theorem whole?_of_route_dictation (h : set.route u = .dictation) : set.whole? u = none := by
  obtain ⟨m, -, hr⟩ | ⟨m, -, hr⟩ | hr | ⟨-, ⟨r, -, hr⟩ | ⟨hw, -⟩⟩ := set.route_cases u
  · cases hr.symm.trans h
  · cases hr.symm.trans h
  · cases hr.symm.trans h
  · cases hr.symm.trans h
  · exact hw

/-- The rule that a finished text belongs to. Blank text belongs to none. -/
def selected? (set : RuleSet) (t : Text) : Option Rule :=
  if t.trim.isEmpty then none else set.whole? t.trim

theorem selected?_of_route_dictation (h : set.route u = .dictation) : set.selected? u = none := by
  rw [selected?, whole?_trim, whole?_of_route_dictation h, ite_self]

end RuleSet

end Dictation
