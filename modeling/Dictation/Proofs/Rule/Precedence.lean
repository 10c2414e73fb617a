import Dictation.Proofs.Routing

namespace Dictation

variable {c : Command} {u : Text} {r : Rule} {rules : List Rule} {m : TailMatch} {i : Nat}

def First {α : Type} (P : α → Prop) (l : List α) (a : α) : Prop :=
  P a ∧ ∃ before after, l = before ++ a :: after ∧ ∀ x ∈ before, ¬P x

theorem First.mem {α : Type} {P : α → Prop} {l : List α} {a : α} (h : First P l a) : a ∈ l := by
  obtain ⟨-, before, after, rfl, -⟩ := h
  exact List.mem_append_right before List.mem_cons_self

namespace Rule

/-- The rule has a command, and its trigger ends the utterance. -/
def Fires (c : Command) (u : Text) (r : Rule) : Prop :=
  r.command? = some c ∧ ∃ i, r.tailMatch? u = some i

def answers (u : Text) (r : Rule) : Bool := r.matchesWhole u || (r.tailMatch? u).isSome

theorem upTo_of_beforeTail? {before : Text} (h : r.beforeTail? u = some before) :
    u.upTo before.size = before := by
  obtain ⟨after, rfl⟩ := isPrefix_of_beforeTail? h
  exact Text.upTo_size before after

theorem tail?_eq_some_iff :
    r.tail? c u = some m ↔ r.Fires c u ∧ m.rule = r ∧ r.beforeTail? u = some m.before := by
  rw [tail?, Option.ite_none_right_eq_some, Option.map_eq_some_iff, Fires, tailMatch?]
  constructor
  · rintro ⟨hc, before, hbefore, rfl⟩
    exact ⟨⟨hc, before.size, by rw [hbefore, Option.map_some]⟩, rfl, hbefore⟩
  · rintro ⟨⟨hc, -⟩, rfl, hbefore⟩
    exact ⟨hc, m.before, hbefore, rfl⟩

theorem tail?_eq_none_iff : r.tail? c u = none ↔ ¬r.Fires c u := by
  rw [tail?, Fires, tailMatch?]
  by_cases hc : r.command? = some c
  · cases r.beforeTail? u <;> simp [hc]
  · simp [hc]

theorem not_fires_of_not_answers (h : r.answers u = false) (c : Command) : ¬r.Fires c u := by
  rintro ⟨-, i, hi⟩
  simp [answers, hi] at h

theorem answers_of_not_isMatchable (h : r.isMatchable = false) (u : Text) :
    r.answers u = false := by
  have hnone : r.trigger? = none := by simpa [isMatchable] using h
  simp [answers, matchesWhole, tailMatch?, beforeTail?, hnone]

end Rule

/-- Where an utterance goes, told by the first rule of each class. -/
inductive Routed (rules : List Rule) (u : Text) : Route → Prop
  | process {r : Rule} {i : Nat} (hr : First (·.Fires .process u) rules r)
      (hi : r.tailMatch? u = some i) :
    Routed rules u (.process (u.upTo i))
  | execute {r : Rule} {i : Nat} (hprocess : ∀ r ∈ rules, ¬r.Fires .process u)
    (hr : First (·.Fires .execute u) rules r) (hi : r.tailMatch? u = some i) :
      Routed rules u (.execute (u.upTo i))
  | discard {r : Rule} (hprocess : ∀ r ∈ rules, ¬r.Fires .process u)
      (hexecute : ∀ r ∈ rules, ¬r.Fires .execute u)
    (hr : r ∈ rules) (hdiscard : r.Fires .discard u) : Routed rules u .discard
  | rule {r : Rule} (htail : ∀ c : Command, c.isTail = true → ∀ r ∈ rules, ¬r.Fires c u)
    (hr : First (·.matchesWhole u = true) rules r) : Routed rules u (.rule r)
  | dictation (htail : ∀ c : Command, c.isTail = true → ∀ r ∈ rules, ¬r.Fires c u)
    (hwhole : ∀ r ∈ rules, r.matchesWhole u = false) : Routed rules u .dictation

namespace RuleSet

variable {set : RuleSet}

theorem tail?_eq_some_iff (hc : c.isTail = true) : set.tail? c u = some m ↔
    First (·.Fires c u) set.rules m.rule ∧ m.rule.beforeTail? u = some m.before := by
  simp only [tail?_eq_findSome? hc, List.findSome?_eq_some_iff, Rule.tail?_eq_some_iff,
    Rule.tail?_eq_none_iff]
  constructor
  · rintro ⟨before, r, after, hrules, ⟨hfires, rfl, hbefore⟩, hno⟩
    exact ⟨⟨hfires, before, after, hrules, hno⟩, hbefore⟩
  · rintro ⟨⟨hfires, before, after, hrules, hno⟩, hbefore⟩
    exact ⟨before, m.rule, after, hrules, ⟨hfires, rfl, hbefore⟩, hno⟩

theorem tail?_eq_none_iff (hc : c.isTail = true) :
    set.tail? c u = none ↔ ∀ r ∈ set.rules, ¬r.Fires c u := by
  simp only [tail?_eq_findSome? hc, List.findSome?_eq_none_iff, Rule.tail?_eq_none_iff]

theorem exists_tail?_of_first (hc : c.isTail = true) (hr : First (·.Fires c u) set.rules r)
    (hi : r.tailMatch? u = some i) : ∃ m, set.tail? c u = some m ∧ m.before = u.upTo i := by
  obtain ⟨before, hbefore, rfl⟩ := Option.map_eq_some_iff.1 hi
  exact ⟨⟨r, before⟩, (tail?_eq_some_iff hc).2 ⟨hr, hbefore⟩,
    (Rule.upTo_of_beforeTail? hbefore).symm⟩

theorem whole?_eq_some_iff :
    set.whole? u = some r ↔ First (·.matchesWhole u = true) set.rules r := by
  simp [whole?, List.find?_eq_some_iff_append, First]

theorem whole?_eq_none_iff : set.whole? u = none ↔ ∀ r ∈ set.rules, r.matchesWhole u = false := by
  simp [whole?]

theorem first_of_tail?_eq_some (h : set.tail? c u = some m) :
    First (·.Fires c u) set.rules m.rule ∧ m.rule.tailMatch? u = some m.before.size ∧
      u.upTo m.before.size = m.before := by
  obtain ⟨hfirst, hbefore⟩ := (tail?_eq_some_iff (isTail_of_tail?_eq_some h)).1 h
  exact ⟨hfirst, by rw [Rule.tailMatch?, hbefore, Option.map_some],
    Rule.upTo_of_beforeTail? hbefore⟩

theorem routed_route (set : RuleSet) (u : Text) : Routed set.rules u (set.route u) := by
  rw [route_eq]
  cases hp : set.tail? .process u with
  | some m =>
    obtain ⟨hfirst, hi, hcut⟩ := first_of_tail?_eq_some hp
    have hrouted := Routed.process hfirst hi
    rwa [hcut] at hrouted
  | none =>
    have hprocess := (tail?_eq_none_iff rfl).1 hp
    cases he : set.tail? .execute u with
    | some m =>
      obtain ⟨hfirst, hi, hcut⟩ := first_of_tail?_eq_some he
      have hrouted := Routed.execute hprocess hfirst hi
      rwa [hcut] at hrouted
    | none =>
      have hexecute := (tail?_eq_none_iff rfl).1 he
      cases hd : set.tail? .discard u with
      | some m =>
        have hfirst := (first_of_tail?_eq_some hd).1
        exact .discard hprocess hexecute hfirst.mem hfirst.1
      | none =>
        have htail : ∀ c : Command, c.isTail = true → ∀ r ∈ set.rules, ¬r.Fires c u := by
          intro c hc
          cases c with
          | process => exact hprocess
          | execute => exact hexecute
          | discard => exact (tail?_eq_none_iff rfl).1 hd
          | undo | redo | stop => cases hc
        cases hw : set.whole? u with
        | some r => exact .rule htail (whole?_eq_some_iff.1 hw)
        | none => exact .dictation htail (whole?_eq_none_iff.1 hw)

theorem route_of_routed {route : Route} (h : Routed set.rules u route) : set.route u = route := by
  rw [route_eq]
  cases h with
  | process hr hi =>
    obtain ⟨m, hm, hbefore⟩ := exists_tail?_of_first rfl hr hi
    rw [hm]
    exact congrArg Route.process hbefore
  | execute hprocess hr hi =>
    obtain ⟨m, hm, hbefore⟩ := exists_tail?_of_first rfl hr hi
    rw [(tail?_eq_none_iff rfl).2 hprocess, hm]
    exact congrArg Route.execute hbefore
  | discard hprocess hexecute hr hdiscard =>
    obtain ⟨hc, i, hi⟩ := hdiscard
    have hsome := tail?_isSome rfl hr hc
      (by simpa [Rule.tailMatch?] using Option.isSome_of_eq_some hi)
    rw [(tail?_eq_none_iff rfl).2 hprocess, (tail?_eq_none_iff rfl).2 hexecute, if_pos hsome]
  | rule htail hr =>
    have hnone (c : Command) (hc : c.isTail = true) := (tail?_eq_none_iff hc).2 (htail c hc)
    rw [hnone .process rfl, hnone .execute rfl, hnone .discard rfl, whole?_eq_some_iff.2 hr]
    rfl
  | dictation htail hwhole =>
    have hnone (c : Command) (hc : c.isTail = true) := (tail?_eq_none_iff hc).2 (htail c hc)
    rw [hnone .process rfl, hnone .execute rfl, hnone .discard rfl, whole?_eq_none_iff.2 hwhole]
    rfl

/-- An utterance that no trigger ends goes to the first rule that it matches as a whole, or else is
dictation. -/
theorem route_of_not_fires (ht : ∀ c : Command, c.isTail = true → ∀ r ∈ set.rules, ¬r.Fires c u) :
    set.route u = (set.whole? u).elim .dictation .rule := by
  cases hw : set.whole? u with
  | some r => exact route_of_routed (.rule ht (whole?_eq_some_iff.1 hw))
  | none => exact route_of_routed (.dictation ht (whole?_eq_none_iff.1 hw))

theorem any_matchesWhole (set : RuleSet) (u : Text) :
    set.rules.any (·.matchesWhole u) = (set.whole? u).isSome := by
  rw [whole?, List.isSome_find?]

section Silent

theorem findSome?_filter {α β : Type} {f : α → Option β} {p : α → Bool}
    (h : ∀ a, p a = false → f a = none)
    (l : List α) : (l.filter p).findSome? f = l.findSome? f := by
  induction l with
  | nil => rfl
  | cons a l ih =>
    by_cases ha : p a = true
    · rw [List.filter_cons_of_pos ha, List.findSome?_cons, List.findSome?_cons, ih]
    · rw [List.filter_cons_of_neg ha, List.findSome?_cons, h a (Bool.not_eq_true _ ▸ ha), ih]

def answering (set : RuleSet) (u : Text) : List Rule := set.rules.filter (·.answers u)

theorem tail?_eq_findSome?_answering (hc : c.isTail = true) (set : RuleSet) (u : Text) :
    set.tail? c u = (set.answering u).findSome? (·.tail? c u) := by
  rw [tail?_eq_findSome? hc, answering, findSome?_filter]
  exact fun r hr => Rule.tail?_eq_none_iff.2 (Rule.not_fires_of_not_answers hr c)

theorem whole?_eq_find?_answering (set : RuleSet) (u : Text) :
    set.whole? u = (set.answering u).find? (·.matchesWhole u) := by
  have hanswers (r : Rule) :
      decide (r.answers u = true ∧ r.matchesWhole u = true) = r.matchesWhole u := by
    cases h : r.matchesWhole u <;> simp [Rule.answers, h]
  simp only [whole?, answering, List.find?_filter, hanswers]

theorem route_of_answering_eq {other : RuleSet} (h : other.answering u = set.answering u) :
    other.route u = set.route u := by
  have htail (c : Command) (hc : c.isTail = true) : other.tail? c u = set.tail? c u := by
    rw [tail?_eq_findSome?_answering hc, tail?_eq_findSome?_answering hc, h]
  have hwhole : other.whole? u = set.whole? u := by
    rw [whole?_eq_find?_answering, whole?_eq_find?_answering, h]
  rw [route_eq, route_eq, htail .process rfl, htail .execute rfl, htail .discard rfl, hwhole]

end Silent

/-- An utterance goes where the first rule of the first class with an answer sends it. Rules that do
not answer it, such as those whose trigger is no pattern, can be put in or taken out anywhere, and
it still goes there. -/
theorem route_first_of_class (set : RuleSet) (u : Text) :
    (∀ route, set.route u = route ↔ Routed set.rules u route) ∧
    (∀ other : RuleSet, other.answering u = set.answering u → other.route u = set.route u) ∧
    ∀ r : Rule, r.isMatchable = false → r.answers u = false := by
  refine ⟨fun route => ⟨?_, route_of_routed⟩, fun other => route_of_answering_eq, fun r hr => ?_⟩
  · rintro rfl
    exact set.routed_route u
  · exact r.answers_of_not_isMatchable hr u

theorem route_first_of_class_among_silent :
    let broken : Rule := ⟨['('], .substitution ['n'], 2⟩
    let silent : Rule := ⟨"(?-i)z".toList, .command .process, 3⟩
    let whole : Rule := ⟨"(?-i)a x".toList, .substitution ['w'], 4⟩
    let execute : Rule := ⟨"(?-i)x".toList, .command .execute, 5⟩
    let process : Rule := ⟨"(?-i)x".toList, .command .process, 6⟩
    let longer : Rule := ⟨"(?-i)a x".toList, .command .process, 7⟩
    let set : RuleSet := ⟨[broken, whole, silent, execute, process, broken, longer], []⟩
    let other : RuleSet := ⟨[whole, execute, process, longer, silent], []⟩
    let u : Text := ['a', ' ', 'x']
    (set.route u = .process ['a'] ∧ Routed set.rules u (.process ['a'])) ∧
      (other.answering u = set.answering u ∧ other.route u = set.route u) ∧
      broken.isMatchable = false ∧ broken.answers u = false := by
  intro broken silent whole execute process longer set other u
  have hroute : set.route u = .process ['a'] := by decide
  have hanswering : other.answering u = set.answering u := by decide
  have hbroken : broken.isMatchable = false := by decide
  obtain ⟨hfirst, hsilent, hno⟩ := route_first_of_class set u
  exact ⟨⟨hroute, (hfirst _).1 hroute⟩, ⟨hanswering, hsilent other hanswering⟩, hbroken,
    hno broken hbroken⟩

end RuleSet

end Dictation
