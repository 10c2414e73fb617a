import Dictation.Proofs.Rule.Stripping

namespace Dictation

/-- A cut: the rule that made it, and the parts of the text that it was asked about. -/
structure Cut where
  rule : Rule
  before : Text
  gap : Text
  word : Text
  after : Text

namespace Cut

open Pattern Trigger

def heard (c : Cut) : Text := c.before ++ (c.gap ++ c.word ++ c.after)

def left (c : Cut) : Text := c.before.trim

/-- The rule found its trigger there: it matches the word, with a blank before it unless it begins
the text, and with nothing but blanks and punctuation after it. -/
structure Made (c : Cut) : Prop where
  strips : c.rule.Strips
  found : c.rule.spokenTailMatch? c.heard = some c.before.size
  matched : ∃ p, pattern? c.rule.trigger = some p ∧ p.Matches (c.before ++ c.gap) c.word c.after
  gap : c.gap = [] ∧ c.before = [] ∨ ∃ b, c.gap = [b] ∧ Character.isBlank b = true
  after : ∀ d ∈ c.after, punctuation d = true

end Cut

namespace RuleSet

open Pattern Trigger

variable {set : RuleSet} {rules : List Rule} {r : Rule} {t u : Text} {cuts : List Cut}

/-- The rules are asked one after the other, each about what the cuts before left of the text. -/
inductive Asked : List Rule → Text → List Cut → Text → Prop
  | done {t : Text} : Asked [] t [] t
  | kept {r : Rule} {rules : List Rule} {t u : Text} {cuts : List Cut}
      (hr : r.Strips → r.spokenTailMatch? t = none)
    (h : Asked rules t cuts u) : Asked (r :: rules) t cuts u
  | cut {c : Cut} {rules : List Rule} {u : Text} {cuts : List Cut} (hc : c.Made)
      (h : Asked rules c.left cuts u) :
    Asked (c.rule :: rules) c.heard (c :: cuts) u

/-- The triggers that are cut off and take part in matching are patterns on their own. -/
def StrippedStandAlone (rules : List Rule) : Prop :=
  ∀ r ∈ rules, r.Strips → r.isMatchable = true → (pattern? r.trigger).isSome = true

/-- Words in a text, one after the other, with nothing but blanks and punctuation around them. -/
inductive Among : List Text → Text → Prop
  | nil : Among [] []
  | filler {words : List Text} {t : Text} {c : Char}
    (hc : Character.isBlank c = true ∨ c = '.' ∨ c = ',' ∨ c = '!' ∨ c = '?') (h : Among words t) :
      Among words (c :: t)
  | word {words : List Text} {t : Text} (w : Text) (h : Among words t) : Among (w :: words) (w ++ t)

section Among

variable {words : List Text} {s : Text}

theorem Among.fillers (h : Among words t) (hs : ∀ c ∈ s, punctuation c = true) :
    Among words (s ++ t) := by
  induction s with
  | nil => exact h
  | cons c s ih =>
    obtain ⟨hc, hs⟩ := List.forall_mem_cons.1 hs
    exact .filler (punctuation_iff.1 hc) (ih hs)

theorem Among.cut {c : Cut} (hc : c.Made) (h : Among words t) :
    Among (c.word :: words) (c.gap ++ c.word ++ c.after ++ t) := by
  rw [List.append_assoc, List.append_assoc]
  refine ((h.fillers hc.after).word c.word).fillers ?_
  obtain ⟨hgap, -⟩ | ⟨b, hgap, hb⟩ := hc.gap <;> rw [hgap]
  · exact List.forall_mem_nil _
  · exact List.forall_mem_singleton.2 (punctuation_iff.2 (.inl hb))

end Among

theorem exists_made {before : Text} (hp : r.isMatchable = true → (pattern? r.trigger).isSome = true)
    (hr : r.Strips) (h : r.beforeSpokenTail? t = some before) :
    ∃ c : Cut, c.Made ∧ c.rule = r ∧ c.before = before ∧ c.heard = t := by
  have hmatchable := Rule.isMatchable_of_beforeSpokenTail? h
  obtain ⟨p, hp⟩ := Option.isSome_iff_exists.1 (hp hmatchable)
  have hfound : r.spokenTailMatch? t = some before.size := congrArg (Option.map Text.size) h
  rw [Rule.beforeSpokenTail?_eq hmatchable hp, take_findStart?_eq_some_iff] at h
  obtain ⟨y, rfl, hfits, -⟩ := h
  obtain ⟨gap, word, after, rfl, hgap, hword, hafter⟩ := fits_ending_iff.1 hfits
  exact ⟨⟨r, before, gap, word, after⟩, ⟨hr, hfound, ⟨p, hp, hword⟩, hgap, hafter⟩, rfl, rfl, rfl⟩

theorem exists_asked (hrules : StrippedStandAlone rules) (s : Stripped) : ∃ cuts,
    Asked rules s.text cuts (rules.foldl stripRule s).text ∧
    ((rules.foldl stripRule s).execute = true ↔
      s.execute = true ∨ ∃ c ∈ cuts, c.rule.command? = some .execute) := by
  induction rules generalizing s with
  | nil => exact ⟨[], .done, by simp⟩
  | cons r rules ih =>
    obtain ⟨hr, hrest⟩ := List.forall_mem_cons.1 hrules
    rw [List.foldl_cons]
    obtain ⟨hkept, hnone⟩ | ⟨before, hs, hbefore, hcut⟩ := stripRule_cases s r
    · rw [hkept]
      obtain ⟨cuts, hasked, hexecute⟩ := ih hrest s
      exact ⟨cuts, .kept (fun hs => Option.map_eq_none_iff.2 (hnone hs)) hasked, hexecute⟩
    · obtain ⟨c, hc, rfl, rfl, hheard⟩ := exists_made (hr hs) hs hbefore
      obtain ⟨cuts, hasked, hexecute⟩ := ih hrest (stripRule s c.rule)
      rw [hcut] at hasked hexecute
      refine ⟨c :: cuts, ?_, ?_⟩
      · rw [← hheard, hcut]
        exact .cut hc hasked
      · rw [hcut, hexecute]
        simp [or_assoc]

theorem Asked.exhausted_iff (h : Asked rules t cuts u) : Exhausted rules t ↔ cuts = [] := by
  induction h with
  | done => exact ⟨fun _ => rfl, fun _ => List.forall_mem_nil _⟩
  | kept hr h ih => exact (List.forall_mem_cons.trans (and_iff_right hr)).trans ih
  | cut hc h ih =>
    refine ⟨fun h => ?_, nofun⟩
    have hnone := h _ List.mem_cons_self hc.strips
    rw [hc.found] at hnone
    cases hnone

theorem Asked.mem (h : Asked rules t cuts u) {c : Cut} (hc : c ∈ cuts) :
    c.rule ∈ rules ∧ c.Made := by
  induction h with
  | done => exact absurd hc List.not_mem_nil
  | kept hr h ih => exact (ih hc).imp_left (List.mem_cons_of_mem _)
  | cut hmade h ih =>
    obtain rfl | hc := List.mem_cons.1 hc
    · exact ⟨List.mem_cons_self, hmade⟩
    · exact (ih hc).imp_left (List.mem_cons_of_mem _)

theorem Asked.text_cases (h : Asked rules t cuts u) :
    cuts = [] ∧ u = t ∨ cuts ≠ [] ∧ u.trim = u := by
  induction h with
  | done => exact .inl ⟨rfl, rfl⟩
  | kept hr h ih => exact ih
  | cut hc h ih =>
    obtain ⟨-, rfl⟩ | ⟨-, htrim⟩ := ih
    · exact .inr ⟨List.cons_ne_nil _ _, Text.trim_trim _⟩
    · exact .inr ⟨List.cons_ne_nil _ _, htrim⟩

/-- Where the text that the rules are asked about stands in another, between blanks and what was cut
off before, there is a place behind which stands all that was cut off, and before which stands what
is left. -/
theorem Asked.exists_kept (h : Asked rules t cuts u) {lead behind : Text} {words : List Text}
    (hlead : ∀ c ∈ lead, Character.isBlank c = true) (hbehind : Among words behind) :
    ∃ kept rest, lead ++ t ++ behind = kept ++ rest ∧ kept.trim = u.trim ∧
      Among (cuts.reverse.map Cut.word ++ words) rest := by
  induction h generalizing lead behind words with
  | done => exact ⟨_, behind, rfl, Text.trim_append_of_blank_left hlead _, hbehind⟩
  | kept hr h ih => exact ih hlead hbehind
  | @cut c rules u cuts hc h ih =>
    obtain ⟨blanks, blanks', hbefore, hblanks, hblanks'⟩ := c.before.exists_eq_trim
    have hrest : Among (c.word :: words) (blanks' ++ (c.gap ++ c.word ++ c.after ++ behind)) :=
      (hbehind.cut hc).fillers fun d hd => punctuation_iff.2 (.inl (hblanks' d hd))
    obtain ⟨kept, rest, htext, htrim, hamong⟩ :=
      ih (List.forall_mem_append.2 ⟨hlead, hblanks⟩) hrest
    refine ⟨kept, rest, ?_, htrim, ?_⟩
    · rw [← htext, Cut.heard, Cut.left]
      nth_rewrite 1 [hbefore]
      simp only [List.append_assoc]
    · rwa [List.reverse_cons, List.map_append, List.append_assoc]

/-- What is cut off the end of a text, and when it counts as an instruction. -/
theorem stripTail_discards (hset : StrippedStandAlone set.rules) (t : Text) : ∃ cuts,
    Asked set.rules t cuts (set.stripTail t).text ∧ (∀ c ∈ cuts, c.rule ∈ set.rules ∧ c.Made) ∧
    ((set.stripTail t).execute = true ↔ ∃ c ∈ cuts, c.rule.command? = some .execute) ∧
    (Exhausted set.rules t → cuts = [] ∧ set.stripTail t = ⟨t, false⟩) ∧
    (¬Exhausted set.rules t → cuts ≠ [] ∧ ∃ k, t.IsBoundary k ∧
      (set.stripTail t).text = (t.upTo k).trim ∧
      Among (cuts.reverse.map Cut.word) (t.beyond k)) := by
  obtain ⟨cuts, hasked, hexecute⟩ := exists_asked hset ⟨t, false⟩
  have hasked : Asked set.rules t cuts (set.stripTail t).text := hasked
  refine ⟨cuts, hasked, fun c hc => hasked.mem hc, ?_, fun h => ?_, fun h => ?_⟩
  · rw [stripTail, hexecute]
    simp
  · exact ⟨hasked.exhausted_iff.1 h, foldl_stripRule_of_exhausted (s := ⟨t, false⟩) h⟩
  · have hcuts : cuts ≠ [] := mt hasked.exhausted_iff.2 h
    have htrimmed : (set.stripTail t).text.trim = (set.stripTail t).text := by
      obtain ⟨hnil, -⟩ | ⟨-, htrim⟩ := hasked.text_cases
      · exact absurd hnil hcuts
      · exact htrim
    obtain ⟨kept, rest, htext, htrim, hamong⟩ := hasked.exists_kept (List.forall_mem_nil _) .nil
    rw [List.nil_append, List.append_nil] at htext
    rw [List.append_nil] at hamong
    subst htext
    refine ⟨hcuts, kept.size, ⟨kept, rest, rfl, rfl⟩, ?_, ?_⟩
    · rw [Text.upTo_size, htrim, htrimmed]
    · rwa [Text.beyond_size]

theorem strippedStandAlone_letters : StrippedStandAlone letters.rules := by
  intro r hr _ _
  simp only [letters, List.mem_cons, List.not_mem_nil, or_false] at hr
  obtain rfl | rfl := hr <;> rfl

theorem stripTail_discards_letters :
    let t : Text := [' ', 'a', ' ', 'y', '.', ' ', 'x', '!']
    StrippedStandAlone letters.rules ∧ ¬Exhausted letters.rules t ∧
      letters.stripTail t = ⟨['a'], true⟩ ∧
      ∃ cuts : List Cut, Asked letters.rules t cuts ['a'] ∧
        (∃ c ∈ cuts, c.rule.command? = some .execute) ∧
        ∃ k, t.IsBoundary k ∧ ['a'] = (t.upTo k).trim ∧
          Among (cuts.reverse.map Cut.word) (t.beyond k) := by
  intro t
  have hx : processLetter.beforeSpokenTail? t = some [' ', 'a', ' ', 'y', '.'] :=
    (beforeSpokenTail?_letter (x := 'x') (by decide) rfl _).trans (by decide)
  have hy : executeLetter.beforeSpokenTail? ['a', ' ', 'y', '.'] = some ['a'] :=
    (beforeSpokenTail?_letter (x := 'y') (by decide) rfl _).trans (by decide)
  have hfirst : stripRule ⟨t, false⟩ processLetter = ⟨['a', ' ', 'y', '.'], false⟩ :=
    (stripRule_of_some (s := ⟨t, false⟩) (.inl rfl) hx).trans (by decide)
  have hsecond : stripRule ⟨['a', ' ', 'y', '.'], false⟩ executeLetter = ⟨['a'], true⟩ :=
    (stripRule_of_some (s := ⟨['a', ' ', 'y', '.'], false⟩) (.inr rfl) hy).trans (by decide)
  have hstripped : letters.stripTail t = ⟨['a'], true⟩ := by
    rw [stripTail, letters, List.foldl_cons, List.foldl_cons, List.foldl_nil, hfirst, hsecond]
  have hnot : ¬Exhausted letters.rules t := by
    intro h
    have hnone := Option.map_eq_none_iff.1 (h processLetter List.mem_cons_self (.inl rfl))
    rw [hx] at hnone
    cases hnone
  obtain ⟨cuts, hasked, -, hexecute, -, hcut⟩ := stripTail_discards strippedStandAlone_letters t
  rw [hstripped] at hasked hexecute hcut
  exact ⟨strippedStandAlone_letters, hnot, hstripped, cuts, hasked, hexecute.1 rfl, (hcut hnot).2⟩

end RuleSet

end Dictation
