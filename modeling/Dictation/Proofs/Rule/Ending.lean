import Dictation.Proofs.Pattern.Matching
import Dictation.Proofs.Routing
import Dictation.Proofs.Rule.Trigger

namespace Dictation

namespace Text

variable {t x x' y y' : Text}

theorem size_le_iff_of_append_eq (h : x ++ y = x' ++ y') :
    x.size ≤ x'.size ↔ x.length ≤ x'.length := by
  have hsize {x y x' y' : Text} (h : x ++ y = x' ++ y') (hle : x.length ≤ x'.length) :
      x.size ≤ x'.size := by
    obtain ⟨z, rfl⟩ := List.prefix_of_prefix_length_le ⟨y, h⟩ ⟨y', rfl⟩ hle
    rw [size_append]
    exact Nat.le_add_right _ _
  refine ⟨fun hle => Nat.le_of_not_lt fun hlt => ?_, hsize h⟩
  -- what the longer one has more takes bytes of its own
  obtain ⟨z, rfl⟩ := List.prefix_of_prefix_length_le ⟨y', h.symm⟩ ⟨y, rfl⟩ hlt.le
  cases z with
  | nil => simp at hlt
  | cons c z =>
    have hc := c.utf8Size_pos
    rw [size_append, size_cons] at hle
    omega

end Text

namespace Pattern

variable {p : Pattern} {t u x y z : Text} {i j : Nat} {f g : CharSet}

/-- The numbers of its groups do not matter to what a pattern matches. -/
theorem leads_locate_shift_iff : Leads (locate p.shift t) i j ↔ Leads (locate p t) i j := by
  induction p generalizing i j with
  | empty | one | place => exact Iff.rfl
  | seq p q ihp ihq =>
    exact leads_seq_iff.trans ((exists_congr fun _ => and_congr ihp ihq).trans leads_seq_iff.symm)
  | alt p q ihp ihq => exact leads_alt_iff.trans ((or_congr ihp ihq).trans leads_alt_iff.symm)
  | opt greedy p ih => exact leads_opt_iff.trans ((or_congr_right ih).trans leads_opt_iff.symm)
  | star greedy p ih => exact leads_star_congr fun _ _ => ih
  | plus greedy p ih =>
    have hrest {k : Nat} : Leads (.star greedy (locate p.shift t)) k j ↔
        Leads (.star greedy (locate p t)) k j :=
      leads_star_congr fun _ _ => ih
    exact leads_plus_iff.trans
      ((exists_congr fun _ => and_congr ih hrest).trans leads_plus_iff.symm)
  | group index p ih => exact leads_group_iff.trans (ih.trans leads_group_iff.symm)

theorem matches_shift_iff : Matches p.shift x y z ↔ p.Matches x y z := leads_locate_shift_iff

/-- The pattern ends a text between `x` and `y`: `y` is a blank, or nothing where `x` is empty, then
a match, then characters of a set. -/
def Ends (p : Pattern) (f : CharSet) (x y : Text) : Prop :=
  ∃ s w z, y = s ++ w ++ z ∧ (s = [] ∧ x = [] ∨ ∃ c, s = [c] ∧ Character.isBlank c = true) ∧
    p.Matches (x ++ s) w z ∧ ∀ c ∈ z, f c = true

theorem Ends.ne_nil (hp : ∀ x z, ¬p.Matches x [] z) (h : p.Ends f x y) : y ≠ [] := by
  rintro rfl
  obtain ⟨s, w, z, hy, -, hw, -⟩ := h
  obtain ⟨hsw, -⟩ := List.append_eq_nil_iff.1 hy.symm
  obtain ⟨-, rfl⟩ := List.append_eq_nil_iff.1 hsw
  exact hp _ _ hw

theorem Ends.mono (hfg : ∀ c, f c = true → g c = true) (h : p.Ends f x y) : p.Ends g x y := by
  obtain ⟨s, w, z, hy, hs, hw, hz⟩ := h
  exact ⟨s, w, z, hy, hs, hw, fun c hc => hfg c (hz c hc)⟩

theorem matches_leading_iff : Matches (.alt (.place .textStart) (.one Character.isBlank)) x y z ↔
    y = [] ∧ x = [] ∨ ∃ c, y = [c] ∧ Character.isBlank c = true := by
  rw [matches_alt_iff, matches_place_iff, matches_one_iff, Place.holds, Option.isNone_iff_eq_none,
    List.getLast?_eq_none_iff]

theorem fits_ending_iff : (Trigger.ending p f).Fits x y ↔ p.Ends f x y := by
  simp only [Trigger.ending, fits_seq_iff (p := .alt _ _), matches_leading_iff, fits_seq_group_iff,
    fits_seq_iff (p := p.shift), matches_shift_iff, fits_seq_star_one_iff, fits_textEnd_iff]
  constructor
  · rintro ⟨s, _, rfl, hs, w, _, rfl, hw, z, _, rfl, hz, rfl⟩
    rw [List.append_nil] at hw
    exact ⟨s, w, z, by simp, hs, hw, hz⟩
  · rintro ⟨s, w, z, rfl, hs, hw, hz⟩
    exact ⟨s, w ++ z, by simp, hs, w, z, rfl, hw, z, [], by simp, hz, rfl⟩

/-- The pattern ends a text from an offset on. -/
def EndsAt (p : Pattern) (f : CharSet) (u : Text) (i : Nat) : Prop :=
  ∃ x y, u = x ++ y ∧ x.size = i ∧ p.Ends f x y

theorem EndsAt.isBoundary (h : p.EndsAt f u i) : u.IsBoundary i := by
  obtain ⟨x, y, hu, hi, -⟩ := h
  exact ⟨x, y, hu, hi⟩

theorem EndsAt.mono (hfg : ∀ c, f c = true → g c = true) (h : p.EndsAt f u i) : p.EndsAt g u i := by
  obtain ⟨x, y, hu, hi, hxy⟩ := h
  exact ⟨x, y, hu, hi, hxy.mono hfg⟩

theorem size_findStart?_ending_eq_some_iff :
    (((Trigger.ending p f).findStart? u).map u.take).map Text.size = some i ↔
      p.EndsAt f u i ∧ ∀ j < i, ¬p.EndsAt f u j := by
  simp only [Option.map_eq_some_iff (f := Text.size), take_findStart?_eq_some_iff, fits_ending_iff]
  constructor
  · rintro ⟨x, ⟨y, hu, hxy, hleast⟩, rfl⟩
    refine ⟨⟨x, y, hu, rfl, hxy⟩, ?_⟩
    rintro _ hlt ⟨x', y', hu', rfl, hxy'⟩
    exact Nat.not_le.2 hlt ((Text.size_le_iff_of_append_eq (hu.symm.trans hu')).2
      (hleast x' y' hu' hxy'))
  · rintro ⟨⟨x, y, hu, rfl, hxy⟩, hleast⟩
    refine ⟨x, ⟨y, hu, hxy, fun x' y' hu' hxy' => ?_⟩, rfl⟩
    rw [← Text.size_le_iff_of_append_eq (hu.symm.trans hu')]
    exact Nat.le_of_not_lt fun hlt => hleast _ hlt ⟨x', y', hu', rfl, hxy'⟩

theorem findStart?_ending_eq_none_iff :
    (Trigger.ending p f).findStart? u = none ↔ ∀ i, ¬p.EndsAt f u i := by
  simp only [findStart?_eq_none_iff, fits_ending_iff]
  constructor
  · rintro hno i ⟨x, y, hu, -, hxy⟩
    exact hno x y hu hxy
  · exact fun hno x y hu hxy => hno _ ⟨x, y, hu, rfl, hxy⟩

end Pattern

namespace Rule

open Pattern Trigger

variable {r : Rule} {p : Pattern} {u x : Text} {i : Nat}

theorem exists_trigger_of_isMatchable (hr : r.isMatchable = true) : ∃ t, r.trigger? = some t :=
  Option.isSome_iff_exists.1 hr

theorem isMatchable_of_beforeTail? (h : r.beforeTail? u = some x) : r.isMatchable = true := by
  obtain ⟨t, ht, -⟩ := Option.bind_eq_some_iff.1 h
  exact Option.isSome_iff_exists.2 ⟨t, ht⟩

theorem isMatchable_of_beforeSpokenTail? (h : r.beforeSpokenTail? u = some x) :
    r.isMatchable = true := by
  obtain ⟨t, ht, -⟩ := Option.bind_eq_some_iff.1 h
  exact Option.isSome_iff_exists.2 ⟨t, ht⟩

theorem isPrefix_of_beforeSpokenTail? (h : r.beforeSpokenTail? u = some x) : x <+: u := by
  obtain ⟨t, -, h⟩ := Option.bind_eq_some_iff.1 h
  obtain ⟨i, -, rfl⟩ := Option.map_eq_some_iff.1 h
  exact List.take_prefix i u

theorem beforeTail?_eq (hr : r.isMatchable = true) (hp : pattern? r.trigger = some p) (u : Text) :
    r.beforeTail? u = ((ending p Character.isBlank).findStart? u).map u.take := by
  obtain ⟨t, ht⟩ := exists_trigger_of_isMatchable hr
  obtain ⟨-, htail, -⟩ := of_read? ht
  rw [beforeTail?, ht, Option.bind_some, tail_eq hp htail]

theorem beforeSpokenTail?_eq (hr : r.isMatchable = true) (hp : pattern? r.trigger = some p)
    (u : Text) : r.beforeSpokenTail? u = ((ending p punctuation).findStart? u).map u.take := by
  obtain ⟨t, ht⟩ := exists_trigger_of_isMatchable hr
  obtain ⟨-, -, hspoken⟩ := of_read? ht
  rw [beforeSpokenTail?, ht, Option.bind_some, spokenTail_eq hp hspoken]

theorem matchesWhole_iff (hr : r.isMatchable = true) (hp : pattern? r.trigger = some p) (u : Text) :
    r.matchesWhole u = true ↔ p.Matches [] u.trim [] := by
  obtain ⟨t, ht⟩ := exists_trigger_of_isMatchable hr
  obtain ⟨hwhole, -, -⟩ := of_read? ht
  rw [matchesWhole, ht, Option.any_some, matchesIn_whole_iff hp hwhole, leads_locate_shift_iff,
    Matches, List.append_nil, List.nil_append, List.length_nil]

theorem tailMatch?_eq_some_iff (hr : r.isMatchable = true) (hp : pattern? r.trigger = some p) :
    r.tailMatch? u = some i ↔ p.EndsAt Character.isBlank u i ∧
      ∀ j < i, ¬p.EndsAt Character.isBlank u j := by
  rw [tailMatch?, beforeTail?_eq hr hp, size_findStart?_ending_eq_some_iff]

theorem tailMatch?_eq_none_iff (hr : r.isMatchable = true) (hp : pattern? r.trigger = some p) :
    r.tailMatch? u = none ↔ ∀ i, ¬p.EndsAt Character.isBlank u i := by
  rw [tailMatch?, beforeTail?_eq hr hp, Option.map_eq_none_iff, Option.map_eq_none_iff,
    findStart?_ending_eq_none_iff]

theorem spokenTailMatch?_eq_some_iff (hr : r.isMatchable = true)
    (hp : pattern? r.trigger = some p) :
    r.spokenTailMatch? u = some i ↔ p.EndsAt punctuation u i ∧
      ∀ j < i, ¬p.EndsAt punctuation u j := by
  rw [spokenTailMatch?, beforeSpokenTail?_eq hr hp, size_findStart?_ending_eq_some_iff]

theorem spokenTailMatch?_eq_none_iff (hr : r.isMatchable = true)
    (hp : pattern? r.trigger = some p) :
    r.spokenTailMatch? u = none ↔ ∀ i, ¬p.EndsAt punctuation u i := by
  rw [spokenTailMatch?, beforeSpokenTail?_eq hr hp, Option.map_eq_none_iff, Option.map_eq_none_iff,
    findStart?_ending_eq_none_iff]

/-- What is cut off the end of an utterance is a blank, unless nothing stands before the trigger,
what the trigger matches there, and blanks. The cut is made at the first offset from which the
utterance is of this form, if there is one. -/
theorem tail_cuts_trigger (hr : r.isMatchable = true) (hp : pattern? r.trigger = some p)
    (u : Text) : (r.matchesWhole u = true ↔ p.Matches [] u.trim []) ∧
    (∀ i, r.tailMatch? u = some i →
      u.IsBoundary i ∧ p.EndsAt Character.isBlank u i ∧ ∀ j < i, ¬p.EndsAt Character.isBlank u j) ∧
    (r.tailMatch? u = none → ∀ i, ¬p.EndsAt Character.isBlank u i) := by
  refine ⟨matchesWhole_iff hr hp u, fun i h => ?_, (tailMatch?_eq_none_iff hr hp).1⟩
  obtain ⟨hends, hleast⟩ := (tailMatch?_eq_some_iff hr hp).1 h
  exact ⟨hends.isBoundary, hends, hleast⟩

theorem tail_cuts_trigger_of_line :
    let r : Rule := ⟨"(?-i)x|(?m:^)y".toList, .command .process, 1⟩
    let u : Text := ['é', ' ', '\n', 'y', ' ']
    ∃ p, pattern? r.trigger = some p ∧ r.isMatchable = true ∧
      (r.matchesWhole [' ', 'x'] = true ∧ p.Matches [] (Text.trim [' ', 'x']) []) ∧
      (r.tailMatch? u = some 3 ∧ u.IsBoundary 3 ∧ p.EndsAt Character.isBlank u 3 ∧
        ∀ j < 3, ¬p.EndsAt Character.isBlank u j) ∧
      (r.tailMatch? ['z', 'x'] = none ∧ ∀ i, ¬p.EndsAt Character.isBlank ['z', 'x'] i) := by
  intro r u
  have hpattern : (pattern? r.trigger).isSome = true := by decide
  obtain ⟨p, hp⟩ := Option.isSome_iff_exists.1 hpattern
  have hr : r.isMatchable = true := by decide
  have hwhole : r.matchesWhole [' ', 'x'] = true := by decide
  have hsome : r.tailMatch? u = some 3 := by decide
  have hnone : r.tailMatch? ['z', 'x'] = none := by decide
  exact ⟨p, hp, hr, ⟨hwhole, (tail_cuts_trigger hr hp _).1.1 hwhole⟩,
    ⟨hsome, (tail_cuts_trigger hr hp u).2.1 3 hsome⟩, hnone, (tail_cuts_trigger hr hp _).2.2 hnone⟩

theorem endsAt_zero_of_matchesWhole (hp : pattern? r.trigger = some p) (hu : u.trim = u)
    (h : r.matchesWhole u = true) (f : CharSet) : p.EndsAt f u 0 := by
  have hmatches := (matchesWhole_iff (isMatchable_of_matchesWhole h) hp u).1 h
  rw [hu] at hmatches
  exact ⟨[], u, rfl, rfl, [], u, [], by simp, .inl ⟨rfl, rfl⟩, hmatches, List.forall_mem_nil _⟩

theorem tailMatch?_of_matchesWhole (hp : pattern? r.trigger = some p) (hu : u.trim = u)
    (h : r.matchesWhole u = true) : r.tailMatch? u = some 0 :=
  (tailMatch?_eq_some_iff (isMatchable_of_matchesWhole h) hp).2
    ⟨endsAt_zero_of_matchesWhole hp hu h _, fun _ hj => absurd hj (Nat.not_lt_zero _)⟩

theorem spokenTailMatch?_of_matchesWhole (hp : pattern? r.trigger = some p) (hu : u.trim = u)
    (h : r.matchesWhole u = true) : r.spokenTailMatch? u = some 0 :=
  (spokenTailMatch?_eq_some_iff (isMatchable_of_matchesWhole h) hp).2
    ⟨endsAt_zero_of_matchesWhole hp hu h _, fun _ hj => absurd hj (Nat.not_lt_zero _)⟩

theorem exists_spokenTailMatch?_le (hr : r.isMatchable = true) (hp : pattern? r.trigger = some p)
    (h : r.tailMatch? u = some i) : ∃ j ≤ i, r.spokenTailMatch? u = some j := by
  -- the blanks are among the characters that may follow
  have hends := ((tailMatch?_eq_some_iff hr hp).1 h).1.mono (g := punctuation) fun c hc =>
    punctuation_iff.2 (.inl hc)
  cases hj : r.spokenTailMatch? u with
  | none => exact absurd hends ((spokenTailMatch?_eq_none_iff hr hp).1 hj i)
  | some j =>
    have hleast := ((spokenTailMatch?_eq_some_iff hr hp).1 hj).2
    exact ⟨j, Nat.le_of_not_lt fun hlt => hleast i hlt hends, rfl⟩

theorem isTail_of_route {set : RuleSet} {c : Command} (hp : pattern? r.trigger = some p)
    (hu : u.trim = u)
    (hr : set.route u = .rule r) (hc : r.command? = some c) : c.isTail = false := by
  obtain ⟨hwhole, htail⟩ := RuleSet.of_route_rule hr
  obtain ⟨hmem, hmatches⟩ := RuleSet.of_whole?_eq_some hwhole
  rw [Bool.eq_false_iff]
  intro hct
  -- the rule would have fired at the end, which is asked first
  have hbefore : (r.beforeTail? u).isSome = true := by
    obtain ⟨x, hx, -⟩ := Option.map_eq_some_iff.1 (tailMatch?_of_matchesWhole hp hu hmatches)
    rw [hx, Option.isSome_some]
  have hsome := RuleSet.tail?_isSome hct hmem hc hbefore
  rw [htail c hct] at hsome
  cases hsome

/-- The three ways to match a trigger are ordered: what matches a whole text ends it from the start
on, and what ends it still does with punctuation allowed, no later. -/
theorem matchers_ordered (hp : pattern? r.trigger = some p) (u : Text) :
    (u.trim = u → r.matchesWhole u = true →
      r.tailMatch? u = some 0 ∧ r.spokenTailMatch? u = some 0) ∧
    (∀ i, r.tailMatch? u = some i → ∃ j ≤ i, r.spokenTailMatch? u = some j) ∧
    ∀ set : RuleSet, u.trim = u → set.route u = .rule r → ∀ c,
      r.command? = some c → c.isTail = false := by
  refine ⟨fun hu h => ?_, fun i h => ?_, fun set hu hr c hc => ?_⟩
  · exact ⟨tailMatch?_of_matchesWhole hp hu h, spokenTailMatch?_of_matchesWhole hp hu h⟩
  · obtain ⟨before, hbefore, -⟩ := Option.map_eq_some_iff.1 h
    exact exists_spokenTailMatch?_le (isMatchable_of_beforeTail? hbefore) hp h
  · exact isTail_of_route hp hu hr hc

theorem matchers_ordered_of_choice :
    let discard : Rule := ⟨"(?-i)x|.*(?-u:\\b)y".toList, .command .discard, 1⟩
    let undo : Rule := ⟨"(?-i)(.* )?u".toList, .command .undo, 2⟩
    let set : RuleSet := ⟨[discard, undo], []⟩
    (pattern? discard.trigger).isSome = true ∧ (pattern? undo.trigger).isSome = true ∧
      (discard.matchesWhole ['x', ' ', 'y'] = true ∧ discard.tailMatch? ['x', ' ', 'y'] = some 0 ∧
        discard.spokenTailMatch? ['x', ' ', 'y'] = some 0) ∧
      (discard.tailMatch? ['é', ' ', 'x', '\n'] = some 2 ∧
        ∃ j ≤ 2, discard.spokenTailMatch? ['é', ' ', 'x', '\n'] = some j) ∧
      (set.route ['x', ' ', 'u'] = .rule undo ∧ Command.undo.isTail = false) := by
  intro discard undo set
  have hdiscard : (pattern? discard.trigger).isSome = true := by decide
  have hundo : (pattern? undo.trigger).isSome = true := by decide
  obtain ⟨p, hp⟩ := Option.isSome_iff_exists.1 hdiscard
  obtain ⟨q, hq⟩ := Option.isSome_iff_exists.1 hundo
  have hwhole : discard.matchesWhole ['x', ' ', 'y'] = true := by decide
  have htail : discard.tailMatch? ['é', ' ', 'x', '\n'] = some 2 := by decide
  have hroute : set.route ['x', ' ', 'u'] = .rule undo := by decide
  have hword := matchers_ordered hp ['x', ' ', 'y']
  have hend := matchers_ordered hp ['é', ' ', 'x', '\n']
  have hother := matchers_ordered hq ['x', ' ', 'u']
  exact ⟨hdiscard, hundo, ⟨hwhole, hword.1 (by decide) hwhole⟩, ⟨htail, hend.2.1 2 htail⟩, hroute,
    hother.2.2 set (by decide) hroute .undo rfl⟩

end Rule

end Dictation
