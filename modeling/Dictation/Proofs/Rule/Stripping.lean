import Dictation.Proofs.Rule.Ending

namespace Dictation

namespace Rule

/-- Whether the trigger of the rule is cut off the end of a text. -/
def Strips (r : Rule) : Prop := r.command? = some .process ∨ r.command? = some .execute

instance (r : Rule) : Decidable r.Strips := inferInstanceAs (Decidable (_ ∨ _))

end Rule

namespace RuleSet

open Pattern Trigger

variable {set : RuleSet} {rules : List Rule} {s : Stripped} {r : Rule} {t before : Text}

/-- None of the rules whose triggers are cut off finds its own at the end of the text. -/
def Exhausted (rules : List Rule) (t : Text) : Prop :=
  ∀ r ∈ rules, r.Strips → r.spokenTailMatch? t = none

/-- The triggers that are cut off are patterns that do not match nothing. -/
def TriggersTakeText (rules : List Rule) : Prop :=
  ∀ r ∈ rules, r.Strips → r.isMatchable = true → ∃ p, pattern? r.trigger = some p ∧
    ∀ x z, ¬p.Matches x [] z

theorem stripRule_of_strips (hr : r.Strips) (s : Stripped) :
    stripRule s r = stripRule.cut s r (decide (r.command? = some .execute)) := by
  obtain hc | hc := hr <;> rw [stripRule, hc] <;> rfl

theorem stripRule_of_some (hr : r.Strips) (h : r.beforeSpokenTail? s.text = some before) :
    stripRule s r = ⟨before.trim, s.execute || decide (r.command? = some .execute)⟩ := by
  rw [stripRule_of_strips hr, stripRule.cut, h]

theorem stripRule_of_none (h : r.Strips → r.beforeSpokenTail? s.text = none) :
    stripRule s r = s := by
  by_cases hr : r.Strips
  · rw [stripRule_of_strips hr, stripRule.cut, h hr]
  · obtain ⟨hprocess, hexecute⟩ := not_or.1 hr
    rw [stripRule]
    split
    · next hc => exact absurd hc hprocess
    · next hc => exact absurd hc hexecute
    · rfl

theorem stripRule_cases (s : Stripped) (r : Rule) :
    (stripRule s r = s ∧ (r.Strips → r.beforeSpokenTail? s.text = none)) ∨
    ∃ before, r.Strips ∧ r.beforeSpokenTail? s.text = some before ∧
      stripRule s r = ⟨before.trim, s.execute || decide (r.command? = some .execute)⟩ := by
  by_cases h : r.Strips → r.beforeSpokenTail? s.text = none
  · exact .inl ⟨stripRule_of_none h, h⟩
  · obtain ⟨hr, hsome⟩ := Classical.not_imp.1 h
    obtain ⟨before, hbefore⟩ := Option.ne_none_iff_exists'.1 hsome
    exact .inr ⟨before, hr, hbefore, stripRule_of_some hr hbefore⟩

theorem stripRule_text_sublist (s : Stripped) (r : Rule) :
    List.Sublist (stripRule s r).text s.text := by
  obtain ⟨heq, -⟩ | ⟨before, -, hbefore, heq⟩ := stripRule_cases s r
  · rw [heq]
  · rw [heq]
    exact before.trim_sublist.trans (Rule.isPrefix_of_beforeSpokenTail? hbefore).sublist

theorem foldl_stripRule_text_sublist (rules : List Rule) (s : Stripped) :
    List.Sublist (rules.foldl stripRule s).text s.text := by
  induction rules generalizing s with
  | nil => exact List.Sublist.refl _
  | cons r rules ih => exact (ih _).trans (stripRule_text_sublist s r)

theorem stripTail_text_sublist (set : RuleSet) (t : Text) : List.Sublist (set.stripTail t).text t :=
  foldl_stripRule_text_sublist set.rules ⟨t, false⟩

theorem foldl_stripRule_of_exhausted (h : Exhausted rules s.text) :
    rules.foldl stripRule s = s := by
  induction rules with
  | nil => rfl
  | cons r rules ih =>
    obtain ⟨hr, hrules⟩ := List.forall_mem_cons.1 h
    rw [List.foldl_cons, stripRule_of_none fun hs => Option.map_eq_none_iff.1 (hr hs), ih hrules]

/-- What one rule after the other leaves: the text as it was, or what stood before the last trigger
that was cut off. The rules after that one do not find theirs. -/
theorem foldl_stripRule_cases (rules : List Rule) (s : Stripped) :
    (rules.foldl stripRule s = s ∧ Exhausted rules s.text) ∨
    ∃ earlier r later before, rules = earlier ++ r :: later ∧ r.Strips ∧
      r.beforeSpokenTail? (earlier.foldl stripRule s).text = some before ∧
      (rules.foldl stripRule s).text = before.trim ∧ Exhausted later before.trim := by
  -- the induction adds the rule that is asked last
  induction rules using List.reverseRecOn with
  | nil => exact .inl ⟨rfl, List.forall_mem_nil _⟩
  | append_singleton rules r ih =>
    rw [List.foldl_append, List.foldl_cons, List.foldl_nil]
    have hadd {rules : List Rule} {t : Text} (h : Exhausted rules t)
        (hr : r.Strips → r.beforeSpokenTail? t = none) : Exhausted (rules ++ [r]) t :=
      List.forall_mem_append.2 ⟨h, List.forall_mem_singleton.2 fun hs =>
        Option.map_eq_none_iff.2 (hr hs)⟩
    obtain ⟨hkept, hr⟩ | ⟨before, hs, hbefore, heq⟩ := stripRule_cases (rules.foldl stripRule s) r
    · rw [hkept]
      obtain ⟨heq, hleft⟩ | ⟨earlier, r', later, before, rfl, hs, hbefore, heq, hleft⟩ := ih
      · rw [heq] at hr
        exact .inl ⟨heq, hadd hleft hr⟩
      · rw [heq] at hr
        exact .inr ⟨earlier, r', later ++ [r], before, by simp, hs, hbefore, heq, hadd hleft hr⟩
    · exact .inr ⟨rules, r, [], before, rfl, hs, hbefore, congrArg Stripped.text heq,
        List.forall_mem_nil _⟩

theorem length_lt_of_beforeSpokenTail? (hset : TriggersTakeText rules) (hmem : r ∈ rules)
    (hr : r.Strips) (h : r.beforeSpokenTail? t = some before) : before.length < t.length := by
  have hmatchable := Rule.isMatchable_of_beforeSpokenTail? h
  obtain ⟨p, hp, hempty⟩ := hset r hmem hr hmatchable
  rw [Rule.beforeSpokenTail?_eq hmatchable hp, take_findStart?_eq_some_iff] at h
  obtain ⟨y, rfl, hfits, -⟩ := h
  have hy := List.length_pos_of_ne_nil ((fits_ending_iff.1 hfits).ne_nil hempty)
  rw [List.length_append]
  omega

theorem stripTail_cases (hset : TriggersTakeText set.rules) (t : Text) :
    (set.stripTail t = ⟨t, false⟩ ∧ Exhausted set.rules t) ∨
      (set.stripTail t).text.length < t.length := by
  obtain hkept | ⟨earlier, r, later, before, hrules, hr, hbefore, heq, -⟩ :=
    foldl_stripRule_cases set.rules ⟨t, false⟩
  · exact .inl hkept
  · have hmem : r ∈ set.rules := hrules ▸ List.mem_append_right _ List.mem_cons_self
    right
    calc (set.stripTail t).text.length = before.trim.length := by rw [stripTail, heq]
      _ ≤ before.length := before.trim_sublist.length_le
      _ < (earlier.foldl stripRule ⟨t, false⟩).text.length :=
        length_lt_of_beforeSpokenTail? hset hmem hr hbefore
      _ ≤ t.length := (foldl_stripRule_text_sublist earlier _).length_le

theorem stripTail_eq_self_iff (hset : TriggersTakeText set.rules) (t : Text) :
    set.stripTail t = ⟨t, false⟩ ↔ Exhausted set.rules t := by
  refine ⟨fun h => ?_, fun h => foldl_stripRule_of_exhausted (s := ⟨t, false⟩) h⟩
  obtain ⟨-, hleft⟩ | hlt := stripTail_cases hset t
  · exact hleft
  · rw [h] at hlt
    exact absurd hlt (Nat.lt_irrefl _)

theorem exists_exhausted_iterate (hset : TriggersTakeText set.rules) (t : Text) :
    ∃ n ≤ t.length, Exhausted set.rules ((fun t => (set.stripTail t).text)^[n] t) := by
  obtain ⟨-, hleft⟩ | hlt := stripTail_cases hset t
  · exact ⟨0, Nat.zero_le _, hleft⟩
  · obtain ⟨n, hn, hleft⟩ := exists_exhausted_iterate hset (set.stripTail t).text
    exact ⟨n + 1, hn.trans_lt hlt, hleft⟩
termination_by t.length

/-- What stripping leaves. It takes nothing from its own result exactly where no rule finds its
trigger there; a trigger that is left is one of the last rule that cut, or of a rule before it; as
many times as there are characters, it leaves none. -/
theorem stripTail_leaves (hset : TriggersTakeText set.rules) (t : Text) :
    (set.stripTail (set.stripTail t).text = ⟨(set.stripTail t).text, false⟩ ↔
      Exhausted set.rules (set.stripTail t).text) ∧
    ((set.stripTail t = ⟨t, false⟩ ∧ Exhausted set.rules t) ∨
      ∃ earlier r later before, set.rules = earlier ++ r :: later ∧ r.Strips ∧
        r.beforeSpokenTail? (earlier.foldl stripRule ⟨t, false⟩).text = some before ∧
        (set.stripTail t).text = before.trim ∧ Exhausted later before.trim) ∧
    ∃ n ≤ t.length, Exhausted set.rules ((fun t => (set.stripTail t).text)^[n] t) :=
  ⟨stripTail_eq_self_iff hset _, foldl_stripRule_cases set.rules ⟨t, false⟩,
    exists_exhausted_iterate hset t⟩

theorem beforeSpokenTail?_letter {x : Char} (hr : r.isMatchable = true)
    (hp : pattern? r.trigger = some (.one (· == x))) (u : Text) :
    r.beforeSpokenTail? u = ((ending (.one (· == x)) fun c =>
      Character.isBlank c || c == '.' || c == ',' || c == '!' || c == '?').findStart? u).map
        u.take := by
  rw [Rule.beforeSpokenTail?_eq hr hp, punctuation_eq]

def processLetter : Rule := ⟨"(?-i)x".toList, .command .process, 2⟩

def executeLetter : Rule := ⟨"(?-i)y".toList, .command .execute, 3⟩

def letters : RuleSet := ⟨[processLetter, executeLetter], []⟩

theorem triggersTakeText_letters : TriggersTakeText letters.rules := by
  intro r hr _ _
  simp only [letters, List.mem_cons, List.not_mem_nil, or_false] at hr
  obtain rfl | rfl := hr
  · exact ⟨.one (· == 'x'), rfl, fun _ _ h => h.ne_nil rfl rfl⟩
  · exact ⟨.one (· == 'y'), rfl, fun _ _ h => h.ne_nil rfl rfl⟩

theorem stripTail_letters :
    letters.stripTail ['a', ' ', 'x', ' ', 'y'] = ⟨['a', ' ', 'x'], true⟩ := by
  have hx : processLetter.beforeSpokenTail? ['a', ' ', 'x', ' ', 'y'] = none :=
    (beforeSpokenTail?_letter (x := 'x') (by decide) rfl _).trans (by decide)
  have hy : executeLetter.beforeSpokenTail? ['a', ' ', 'x', ' ', 'y'] = some ['a', ' ', 'x'] :=
    (beforeSpokenTail?_letter (x := 'y') (by decide) rfl _).trans (by decide)
  have hkept : stripRule ⟨['a', ' ', 'x', ' ', 'y'], false⟩ processLetter =
      ⟨['a', ' ', 'x', ' ', 'y'], false⟩ :=
    stripRule_of_none (s := ⟨['a', ' ', 'x', ' ', 'y'], false⟩) fun _ => hx
  have hcut := stripRule_of_some (s := ⟨['a', ' ', 'x', ' ', 'y'], false⟩) (.inr rfl) hy
  -- the first rule is not asked again about the trigger that the second one uncovers
  rw [stripTail, letters, List.foldl_cons, List.foldl_cons, List.foldl_nil, hkept, hcut]
  decide

theorem stripTail_leaves_letters :
    TriggersTakeText letters.rules ∧
      (letters.stripTail ['a', ' ', 'x'] = ⟨['a', ' ', 'x'], false⟩ ↔
        Exhausted letters.rules ['a', ' ', 'x']) ∧
      (∃ earlier r later before, letters.rules = earlier ++ r :: later ∧ r.Strips ∧
        r.beforeSpokenTail? (earlier.foldl stripRule ⟨['a', ' ', 'x', ' ', 'y'], false⟩).text =
          some before ∧
        ['a', ' ', 'x'] = before.trim ∧ Exhausted later before.trim) ∧
      ∃ n ≤ 5, Exhausted letters.rules ((fun t => (letters.stripTail t).text)^[n]
        ['a', ' ', 'x', ' ', 'y']) := by
  obtain ⟨hagain, hlast, hnone⟩ :=
    stripTail_leaves triggersTakeText_letters ['a', ' ', 'x', ' ', 'y']
  rw [stripTail_letters] at hagain hlast
  refine ⟨triggersTakeText_letters, hagain, ?_, hnone⟩
  obtain ⟨heq, -⟩ | hlast := hlast
  · cases heq
  · exact hlast

/-- One pass can leave a trigger at the end, and a second one cuts it off. -/
theorem not_exhausted_letters :
    TriggersTakeText letters.rules ∧
      letters.stripTail ['a', ' ', 'x', ' ', 'y'] = ⟨['a', ' ', 'x'], true⟩ ∧
      processLetter.spokenTailMatch? ['a', ' ', 'x'] = some 1 ∧
        ¬Exhausted letters.rules ['a', ' ', 'x'] ∧
      letters.stripTail ['a', ' ', 'x'] ≠ ⟨['a', ' ', 'x'], false⟩ := by
  have hbefore : processLetter.beforeSpokenTail? ['a', ' ', 'x'] = some ['a'] :=
    (beforeSpokenTail?_letter (x := 'x') (by decide) rfl _).trans (by decide)
  have hfound : processLetter.spokenTailMatch? ['a', ' ', 'x'] = some 1 :=
    congrArg (Option.map Text.size) hbefore
  have hleft : ¬Exhausted letters.rules ['a', ' ', 'x'] := by
    intro h
    have hnone := h processLetter List.mem_cons_self (.inl rfl)
    rw [hfound] at hnone
    cases hnone
  exact ⟨triggersTakeText_letters, stripTail_letters, hfound, hleft,
    mt (stripTail_eq_self_iff triggersTakeText_letters _).1 hleft⟩

end RuleSet

end Dictation
