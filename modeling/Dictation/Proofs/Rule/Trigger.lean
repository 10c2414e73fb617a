import Dictation.Rule.Basic
import Dictation.Proofs.Character.Folding
import Dictation.Proofs.Pattern.Nested
import Dictation.Proofs.Pattern.Search

namespace Dictation

namespace Pattern

open Reading

variable {f : Flags} {t w : Text} {n m : Nat} {s e r : Reading}

theorem exists_reading_of_read? {x : Expression} (h : read? f t = some x) :
    ∃ r, run? (t.length + 1) { flags := f } t = some r ∧ r.stack = [] ∧
      x.pattern = r.inside.toNode.pattern := by
  obtain ⟨r, hr, h⟩ := Option.bind_eq_some_iff.1 h
  dsimp only at h
  split at h
  · next hb =>
    obtain rfl := Option.some.inj h
    simp only [Bool.and_eq_true, List.isEmpty_iff] at hb
    exact ⟨r, hr, hb.1.1, rfl⟩
  · cases h

theorem exists_run_of_step {c : Char} {t' : Text} (s' : Reading) (hs : s.flags.verbose = false)
    (hstep : s.step? c t = some (s', t')) (h : run? m s (c :: t) = some r) :
    ∃ k, run? k s' t' = some r := by
  obtain _ | m := m
  · cases h
  rw [run?, skip_of_not_verbose hs] at h
  dsimp only at h
  rw [hstep, Option.bind_some] at h
  exact ⟨m, h⟩

theorem ne_question_of_run? (hf : f.verbose = false) (h : run? n { flags := f } t = some e) :
    t.head? ≠ some '?' := by
  intro ht
  obtain ⟨t, rfl⟩ := List.head?_eq_some_iff.1 ht
  obtain _ | n := n
  · cases h
  have hstep : step? { flags := f } '?' t = none := by
    simp only [step?, uncounted?]
    split <;> rfl
  rw [run?, skip_of_not_verbose hf] at h
  dsimp only at h
  rw [hstep, Option.bind_none] at h
  cases h

theorem repeat?_star {node : Node} {parts : List Part} (hs : s.inside.parts = .node node :: parts)
    (hlight : node.weight + 32 ≤ weightLimit) :
    s.repeat? 0 none false = some { s with inside := ⟨s.inside.alternatives,
      .node ⟨.star (false == s.flags.swapGreed) node.pattern, node.depth + 1, node.weight + 32⟩ ::
        parts⟩ } := by
  have hcopies : max 1 (Option.getD none (max 0 1)) = 1 := rfl
  simp only [repeat?, hs, hcopies, Nat.mul_one, Nat.not_lt.2 hlight, if_false]
  rfl

theorem step?_open (hf : f.verbose = false) (inside : Inside) (ht : t.head? ≠ some '?') :
    step? { flags := f, inside } '(' t = some (nest ⟨inside, some 1, f⟩ { flags := f }, t) := by
  unfold step? group?
  rw [skip_of_not_verbose hf]
  cases t with
  | nil => rfl
  | cons c u =>
    have hc : c ≠ '?' := fun h => ht (congrArg some h)
    simp only [List.cons.injEq, hc, false_and, imp_self, implies_true]
    rfl

/-- A group whose contents are a pattern on their own is read as that pattern. -/
theorem exists_run_of_group (hf : f.verbose = false) (inside : Inside) (hw : Closing (')' :: w))
    (he : run? n { flags := f } t = some e) (hclosed : e.stack = [])
    (hr : run? m { flags := f, inside } ('(' :: (t ++ ')' :: w)) = some r) (hstack : r.stack = []) :
    ∃ k groups names depth weight, run? k
      ⟨f, groups, names, inside.add (.node ⟨.group 1 e.inside.toNode.pattern.shift, depth, weight⟩),
        []⟩ w = some r := by
  have hhead : (t ++ ')' :: w).head? ≠ some '?' := by
    cases t with
    | nil => simp
    | cons c t => exact ne_question_of_run? (t := c :: t) hf he
  obtain ⟨m, hr⟩ := exists_run_of_step _ hf (step?_open hf inside hhead) hr
  obtain ⟨m, hr⟩ := run?_nest hw (.behind t) he hr hstack
  obtain _ | m := m
  · cases hr
  rw [run?, hw.skip] at hr
  dsimp only at hr
  have hclose : closeGroup? (e.nest ⟨inside, some 1, f⟩) = some ⟨f, e.groups + 1,
      e.names.map (Prod.map id (· + 1)),
      inside.add (.node ⟨.group 1 e.inside.toNode.pattern.shift, e.inside.toNode.depth + 1,
        e.inside.toNode.weight + 64⟩), []⟩ := by
    simp only [closeGroup?, nest, hclosed, List.map_nil, List.nil_append, Inside.shift_toNode]
    rfl
  rw [step?, hclose, Option.map_some, Option.bind_some] at hr
  exact ⟨m, _, _, _, _, hr⟩

end Pattern

namespace Trigger

open Pattern

variable {trigger : Text} {p whole tail : Pattern}

theorem exists_reading_of_pattern? (h : pattern? trigger = some p) :
    ∃ r, Reading.run? (trigger.length + 1) { flags := { ignoreCase := true } } trigger = some r ∧
      r.stack = [] ∧ p = r.inside.toNode.pattern := by
  obtain ⟨x, hx, rfl⟩ := Option.map_eq_some_iff.1 h
  exact exists_reading_of_read? hx

theorem wholeText_eq (trigger : Text) :
    wholeText trigger = '^' :: '(' :: (trigger ++ [')', '$']) := by
  rw [wholeText, List.append_assoc]
  rfl

theorem whole_eq (hp : pattern? trigger = some p) (hw : pattern? (wholeText trigger) = some whole) :
    whole = .seq (.place .textStart) (.seq (.group 1 p.shift) (.place .textEnd)) := by
  obtain ⟨e, he, hclosed, rfl⟩ := exists_reading_of_pattern? hp
  obtain ⟨r, hr, hstack, rfl⟩ := exists_reading_of_pattern? hw
  have hending : Closing [')', '$'] := ⟨⟨['$'], rfl⟩, by decide, by decide⟩
  let inside : Inside := { parts := [.node ⟨.place .textStart, 0, 32⟩] }
  let flags : Flags := { ignoreCase := true }
  rw [wholeText_eq] at hr
  obtain ⟨m, hr⟩ := exists_run_of_step ⟨flags, 0, [], inside, []⟩ rfl rfl hr
  obtain ⟨m, groups, names, depth, weight, hr⟩ :=
    exists_run_of_group (f := flags) (t := trigger) (m := m)
      (r := r) rfl inside hending he hclosed hr hstack
  obtain ⟨m, hr⟩ := exists_run_of_step _ rfl rfl hr
  obtain _ | m := m
  · cases hr
  obtain rfl := Option.some.inj hr
  rfl

/-- A pattern between a blank, or the start of the text, and characters of a set up to the end. -/
def ending (p : Pattern) (trailing : CharSet) : Pattern :=
  .seq (.alt (.place .textStart) (.one Character.isBlank)) (.seq (.group 1 p.shift)
    (.seq (.star true (.one trailing)) (.place .textEnd)))

/-- The blanks and the punctuation that may follow a trigger where a service wrote it down. -/
def punctuation : CharSet := Flags.widen { ignoreCase := true } fun c =>
  Character.isBlank c || c == '.' || c == ',' || c == '!' || c == '?'

theorem punctuation_eq :
    punctuation = fun c => Character.isBlank c || c == '.' || c == ',' || c == '!' || c == '?' := by
  let stop (c : Char) : Bool := Character.isBlank c || c == '.' || c == ',' || c == '!' || c == '?'
  have hstop (c : Char) (hc : stop c = true) : c.toNat ∈ Character.stops := by
    simp only [stop, Bool.or_eq_true, beq_iff_eq] at hc
    obtain (((hblank | rfl) | rfl) | rfl) | rfl := hc
    case inl.inl.inl.inl => exact List.mem_append_left _ (Character.toNat_mem_blanks hblank)
    all_goals decide
  funext c
  have hwiden : punctuation c = (Character.caseClass c).any stop := by
    simp only [punctuation, Flags.widen, Flags.sameAs, if_true, stop]
  rw [hwiden, Character.any_caseClass Character.uncased_stops (by decide) hstop]

theorem punctuation_iff {c : Char} :
    punctuation c = true ↔ Character.isBlank c = true ∨ c = '.' ∨ c = ',' ∨ c = '!' ∨ c = '?' := by
  simp only [punctuation_eq, Bool.or_eq_true, beq_iff_eq, or_assoc]

def leading : Node := ⟨.alt (.place .textStart) (.one Character.isBlank), 2, 872⟩

/-- The forms for the end of an utterance begin with the same group, and then with the trigger as
another one. -/
theorem exists_run_of_leading (hp : pattern? trigger = some p) {w : Text} (hw : Closing (')' :: w))
    {r : Reading} {m : Nat} (hr : Reading.run? m { flags := { ignoreCase := true } }
      ('(' :: '?' :: ':' :: '^' :: '|' :: '\\' :: 's' :: ')' :: '(' :: (trigger ++ ')' :: w)) =
        some r)
    (hstack : r.stack = []) :
    ∃ k groups names depth weight, Reading.run? k ⟨{ ignoreCase := true }, groups, names,
      { parts := [.node ⟨.group 1 p.shift, depth, weight⟩, .node leading] }, []⟩ w = some r := by
  obtain ⟨e, he, hclosed, rfl⟩ := exists_reading_of_pattern? hp
  let flags : Flags := { ignoreCase := true }
  let start : Node := ⟨.place .textStart, 0, 32⟩
  let blank : Node := ⟨.one Character.isBlank, 0, 800⟩
  let opened : Opened := ⟨{}, none, flags⟩
  -- The first group, one step for each of its parts.
  obtain ⟨m, hr⟩ := exists_run_of_step ⟨flags, 0, [], {}, [opened]⟩ rfl rfl hr
  obtain ⟨m, hr⟩ := exists_run_of_step ⟨flags, 0, [], { parts := [.node start] }, [opened]⟩ rfl rfl
    hr
  obtain ⟨m, hr⟩ := exists_run_of_step ⟨flags, 0, [], { alternatives := [start] }, [opened]⟩ rfl rfl
    hr
  obtain ⟨m, hr⟩ := exists_run_of_step ⟨flags, 0, [], ⟨[start], [.node blank]⟩, [opened]⟩ rfl rfl hr
  obtain ⟨m, hr⟩ := exists_run_of_step ⟨flags, 0, [], { parts := [.node leading] }, []⟩ rfl rfl hr
  exact exists_run_of_group (f := flags) rfl { parts := [.node leading] } hw he hclosed hr hstack

theorem pattern_of_run_trailing {f : CharSet} {depth weight d k m : Nat} {names : List (Text × Nat)}
    {r : Reading}
    (hlight : k + 32 ≤ weightLimit) (hr : Reading.run? m ⟨{ ignoreCase := true }, groups, names,
      { parts := [.node ⟨.one f, d, k⟩, .node ⟨.group 1 p.shift, depth, weight⟩, .node leading] },
        []⟩ ['*', '$'] = some r) : r.inside.toNode.pattern = ending p f := by
  let read (part : Part) : Reading := ⟨{ ignoreCase := true }, groups, names,
    { parts := [part, .node ⟨.group 1 p.shift, depth, weight⟩, .node leading] }, []⟩
  have hstar : (read (.node ⟨.one f, d, k⟩)).step? '*' ['$'] =
      some (read (.node ⟨.star true (.one f), d + 1, k + 32⟩), ['$']) := by
    have hrepeat := repeat?_star (s := read (.node ⟨.one f, d, k⟩)) rfl hlight
    simp only [Reading.step?, Reading.uncounted?, hrepeat]
    rfl
  obtain ⟨m, hr⟩ := exists_run_of_step _ rfl hstar hr
  obtain ⟨m, hr⟩ := exists_run_of_step _ rfl rfl hr
  obtain _ | m := m
  · cases hr
  obtain rfl := Option.some.inj hr
  rfl

theorem tail_eq (hp : pattern? trigger = some p) (ht : pattern? (tailText trigger) = some tail) :
    tail = ending p Character.isBlank := by
  obtain ⟨r, hr, hstack, rfl⟩ := exists_reading_of_pattern? ht
  have htext : tailText trigger =
      '(' :: '?' :: ':' :: '^' :: '|' :: '\\' :: 's' :: ')' :: '(' ::
        (trigger ++ [')', '\\', 's', '*', '$']) :=
    List.append_assoc _ _ _
  rw [htext] at hr
  obtain ⟨m, groups, names, depth, weight, hr⟩ :=
    exists_run_of_leading hp ⟨⟨_, rfl⟩, by decide, by decide⟩ hr hstack
  obtain ⟨m, hr⟩ := exists_run_of_step _ rfl rfl hr
  exact pattern_of_run_trailing (by decide +kernel) hr

theorem spokenTail_eq (hp : pattern? trigger = some p)
    (ht : pattern? (spokenTailText trigger) = some tail) : tail = ending p punctuation := by
  obtain ⟨r, hr, hstack, rfl⟩ := exists_reading_of_pattern? ht
  have htext : spokenTailText trigger = '(' :: '?' :: ':' :: '^' :: '|' :: '\\' :: 's' :: ')' ::
    '(' ::
      (trigger ++ [')', '[', '\\', 's', '.', ',', '!', '?', ']', '*', '$']) :=
    List.append_assoc _ _ _
  rw [htext] at hr
  obtain ⟨m, groups, names, depth, weight, hr⟩ :=
    exists_run_of_leading hp ⟨⟨_, rfl⟩, by decide, by decide⟩ hr hstack
  have hset : Bracket.read? { ignoreCase := true } ['\\', 's', '.', ',', '!', '?', ']', '*', '$'] =
      some (⟨punctuation, 2, 864⟩, ['*', '$']) := rfl
  have hstep (inside : Inside) :
      Reading.step? ⟨{ ignoreCase := true }, groups, names, inside, []⟩ '['
      ['\\', 's', '.', ',', '!', '?', ']', '*', '$'] =
        some (⟨{ ignoreCase := true }, groups, names, inside.add (.node ⟨.one punctuation, 2, 864⟩),
          []⟩, ['*', '$']) := by
    simp only [Reading.step?, hset, Option.map_some, Reading.addNode]
  obtain ⟨m, hr⟩ := exists_run_of_step _ rfl (hstep _) hr
  exact pattern_of_run_trailing (by decide +kernel) hr

theorem of_read? {t : Trigger} (h : read? trigger = some t) :
    pattern? (wholeText trigger) = some t.whole ∧ pattern? (tailText trigger) = some t.tail ∧
      pattern? (spokenTailText trigger) = some t.spokenTail := by
  simp only [read?, Option.bind_eq_bind, Option.bind_eq_some_iff] at h
  obtain ⟨whole, hwhole, tail, htail, spokenTail, hspoken, ht⟩ := h
  obtain rfl := Option.some.inj ht
  exact ⟨hwhole, htail, hspoken⟩

variable {u : Text}

/-- A trigger matches a whole text where its pattern leads from the start to the end. -/
theorem matchesIn_whole_iff (hp : pattern? trigger = some p)
    (hw : pattern? (wholeText trigger) = some whole) :
    whole.matchesIn u = true ↔ Leads (locate p.shift u) 0 u.length := by
  rw [whole_eq hp hw, matchesIn_iff]
  simp only [StartsAt, locate, Shape.map, leads_seq_iff, leads_place_iff, leads_group_iff,
    mem_locate_textStart, mem_locate_textEnd]
  constructor
  · rintro ⟨_, j, -, _, ⟨rfl, rfl⟩, k, hl, rfl, rfl⟩
    exact hl
  · intro hl
    exact ⟨0, u.length, le_rfl, 0, ⟨rfl, rfl⟩, u.length, hl, rfl, rfl⟩

end Trigger

end Dictation
