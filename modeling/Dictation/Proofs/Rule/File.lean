import Mathlib.Data.List.Induction
import Dictation.Rule.File

namespace Dictation

namespace Rule

variable {r : Rule} {f : Fault} {pattern template trigger : Text}

def Broken (r : Rule) : Prop :=
  ∃ pattern template, r.action = .replacement pattern template ∧
    Pattern.read? { multiLine := true } (Marker.canonical pattern) = none

theorem broken_iff (hr : r.action = .replacement pattern template) :
    r.Broken ↔ Pattern.read? { multiLine := true } (Marker.canonical pattern) = none := by
  constructor
  · rintro ⟨p, t, ha, hp⟩
    obtain ⟨rfl, rfl⟩ := Action.replacement.inj (hr.symm.trans ha)
    exact hp
  · intro hp
    exact ⟨pattern, template, hr, hp⟩

instance (r : Rule) : Decidable r.Broken :=
  match h : r.action with
  | .command _ | .substitution _ => isFalse fun ⟨_, _, ha, _⟩ => nomatch h.symm.trans ha
  | .replacement _ _ => decidable_of_iff _ (broken_iff h).symm

theorem operation_of_replacement (hr : r.action = .replacement pattern template) :
    r.operation = .error f ↔
      Pattern.read? { multiLine := true } (Marker.canonical pattern) = none ∧
        f = .operation r.trigger := by
  rw [operation, hr]
  dsimp only [Operation.read?]
  cases Pattern.read? { multiLine := true } (Marker.canonical pattern) with
  | none => simp [eq_comm]
  | some e => simp

theorem operation_eq_fault_iff :
    r.operation = .error (.operation trigger) ↔ r.Broken ∧ trigger = r.trigger := by
  cases hr : r.action with
  | command c => simp [operation, Broken, hr]
  | substitution t => simp [operation, Broken, hr]
  | replacement pattern template =>
    rw [operation_of_replacement hr, broken_iff hr, Fault.operation.injEq]

end Rule

namespace Problem

/-- A problem for which a line is passed over. -/
def Skips (p : Problem) : Prop :=
  p.className = "malformed".toList ∨ p.className = "unknown-command".toList

theorem className_trigger (t : Text) : (trigger t).className = "invalid-trigger-regex".toList := rfl

theorem className_operation (t : Text) :
    (operation t).className = "invalid-operation-regex".toList := rfl

theorem not_skips_trigger (t : Text) : ¬(trigger t).Skips := by
  unfold Skips
  rw [className_trigger, String.toList_inj, String.toList_inj]
  simp

theorem not_skips_operation (t : Text) : ¬(operation t).Skips := by
  unfold Skips
  rw [className_operation, String.toList_inj, String.toList_inj]
  simp

end Problem

namespace RuleSet

variable {a b set : RuleSet} {r : Rule} {i j k n : Nat}

theorem warnings_ofRule (r : Rule) :
    (ofRule r).warnings = (if r.isMatchable then [] else [⟨r.line, .trigger r.trigger⟩]) ++
      if r.Broken then [⟨r.line, .operation r.trigger⟩] else [] := by
  rw [ofRule, List.append_right_inj]
  split
  next trigger h =>
    obtain ⟨hr, rfl⟩ := Rule.operation_eq_fault_iff.1 h
    rw [if_pos hr]
  next h => rw [if_neg fun hr => h _ (Rule.operation_eq_fault_iff.2 ⟨hr, rfl⟩)]

theorem warnings_ofRule_eq_nil_iff : (ofRule r).warnings = [] ↔ r.isMatchable ∧ ¬r.Broken := by
  rw [warnings_ofRule, List.append_eq_nil_iff]
  simp

theorem eq_of_mem_warnings_ofRule {w : Warning} (h : w ∈ (ofRule r).warnings) :
    w.line = r.line ∧ ¬w.problem.Skips := by
  rw [warnings_ofRule, List.mem_append] at h
  rcases h with h | h
  · split_ifs at h
    · cases h
    · obtain rfl := List.mem_singleton.1 h
      exact ⟨rfl, Problem.not_skips_trigger _⟩
  · split_ifs at h
    · obtain rfl := List.mem_singleton.1 h
      exact ⟨rfl, Problem.not_skips_operation _⟩
    · cases h

/-- The rules and warnings of one line. -/
def onLine (set : RuleSet) (n : Nat) : RuleSet :=
  ⟨set.rules.filter (·.line = n), set.warnings.filter (·.line = n)⟩

structure Within (set : RuleSet) (i j : Nat) : Prop where
  rules : ∀ r ∈ set.rules, i ≤ r.line ∧ r.line < j
  warnings : ∀ w ∈ set.warnings, i ≤ w.line ∧ w.line < j

structure Ordered (set : RuleSet) : Prop where
  rules : set.rules.Pairwise fun r s => r.line < s.line
  warnings : set.warnings.Pairwise fun v w => v.line ≤ w.line

theorem within_ofRule (r : Rule) : (ofRule r).Within r.line (r.line + 1) where
  rules s hs := by
    obtain rfl := List.mem_singleton.1 hs
    exact ⟨Nat.le_refl _, Nat.lt_succ_self _⟩
  warnings w hw := by
    rw [(eq_of_mem_warnings_ofRule hw).1]
    exact ⟨Nat.le_refl _, Nat.lt_succ_self _⟩

theorem within_ofProblem (n : Nat) (p : Problem) : (ofProblem n p).Within n (n + 1) where
  rules := nofun
  warnings w hw := by
    obtain rfl := List.mem_singleton.1 hw
    exact ⟨Nat.le_refl _, Nat.lt_succ_self _⟩

theorem ordered_ofRule (r : Rule) : (ofRule r).Ordered where
  rules := List.pairwise_singleton _ r
  warnings := List.pairwise_of_forall_mem_list fun _ hv _ hw =>
    Nat.le_of_eq ((eq_of_mem_warnings_ofRule hv).1.trans (eq_of_mem_warnings_ofRule hw).1.symm)

theorem ordered_ofProblem (n : Nat) (p : Problem) : (ofProblem n p).Ordered :=
  ⟨.nil, List.pairwise_singleton _ _⟩

theorem within_empty (i j : Nat) : empty.Within i j := ⟨nofun, nofun⟩

theorem ordered_empty : empty.Ordered := ⟨.nil, .nil⟩

theorem Within.mono (h : set.Within i j) {k l : Nat} (hk : k ≤ i) (hl : j ≤ l) :
    set.Within k l where
  rules r hr := ⟨Nat.le_trans hk (h.rules r hr).1, Nat.lt_of_lt_of_le (h.rules r hr).2 hl⟩
  warnings w hw := ⟨Nat.le_trans hk (h.warnings w hw).1, Nat.lt_of_lt_of_le (h.warnings w hw).2 hl⟩

theorem Within.append (ha : a.Within i j) (hb : b.Within i j) : (a.append b).Within i j where
  rules r hr := (List.mem_append.1 hr).elim (ha.rules r) (hb.rules r)
  warnings w hw := (List.mem_append.1 hw).elim (ha.warnings w) (hb.warnings w)

theorem Ordered.append (ha : a.Ordered) (hb : b.Ordered) (hi : a.Within i j) (hj : b.Within j k) :
    (a.append b).Ordered where
  rules := List.pairwise_append.2 ⟨ha.rules, hb.rules, fun r hr s hs =>
    Nat.lt_of_lt_of_le (hi.rules r hr).2 (hj.rules s hs).1⟩
  warnings := List.pairwise_append.2 ⟨ha.warnings, hb.warnings, fun v hv w hw =>
    Nat.le_of_lt (Nat.lt_of_lt_of_le (hi.warnings v hv).2 (hj.warnings w hw).1)⟩

theorem append_empty (a : RuleSet) : a.append empty = a := by
  rw [append, empty, List.append_nil, List.append_nil]

theorem empty_append (a : RuleSet) : empty.append a = a := rfl

theorem append_assoc (a b c : RuleSet) : (a.append b).append c = a.append (b.append c) := by
  simp only [append, List.append_assoc]

theorem onLine_append (a b : RuleSet) (n : Nat) :
    (a.append b).onLine n = (a.onLine n).append (b.onLine n) := by
  simp only [onLine, append, List.filter_append]

theorem onLine_of_within (h : a.Within n (n + 1)) : a.onLine n = a := by
  have hrules : a.rules.filter (·.line = n) = a.rules := by
    rw [List.filter_eq_self]
    intro r hr
    have := h.rules r hr
    simp only [decide_eq_true_eq]
    omega
  have hwarnings : a.warnings.filter (·.line = n) = a.warnings := by
    rw [List.filter_eq_self]
    intro w hw
    have := h.warnings w hw
    simp only [decide_eq_true_eq]
    omega
  rw [onLine, hrules, hwarnings]

theorem onLine_of_outside (h : a.Within i j) (hn : n < i ∨ j ≤ n) : a.onLine n = empty := by
  have hrules : a.rules.filter (·.line = n) = [] := by
    rw [List.filter_eq_nil_iff]
    intro r hr
    have := h.rules r hr
    simp only [decide_eq_true_eq]
    omega
  have hwarnings : a.warnings.filter (·.line = n) = [] := by
    rw [List.filter_eq_nil_iff]
    intro w hw
    have := h.warnings w hw
    simp only [decide_eq_true_eq]
    omega
  rw [onLine, hrules, hwarnings, empty]

end RuleSet

namespace RuleFile

variable {line trigger : Text} {lines above below : List Text} {number n : Nat} {p : Problem}
  {action : Action}

section Line

/-- The trimmed line opens a section: digits for a number below 2^32, and a full stop. -/
def Opens (line : Text) (number : Nat) : Prop :=
  ∃ digits rest, line = digits ++ '.' :: rest ∧ digits ≠ [] ∧ (∀ c ∈ digits, c.isDigit = true) ∧
    Text.digitsValue digits = number ∧ number < Nat.pow 2 32

/-- The trimmed line is to give a rule or a warning. -/
structure Candidate (line : Text) : Prop where
  not_opens : ∀ number, ¬Opens line number
  ne_nil : line ≠ []
  not_comment : line.head? ≠ some '#'
  has_equals : '=' ∈ line

theorem section?_eq_some_iff : section? line = some number ↔ Opens line number := by
  rw [section?]
  constructor
  · intro h
    split at h
    next rest hrest =>
      have hline : line = line.takeWhile Char.isDigit ++ '.' :: rest := by
        rw [← hrest]
        exact (List.prefix_iff_eq_append.1 (List.takeWhile_prefix _)).symm
      exact ⟨_, rest, hline, Text.toNat?_eq_some_iff.1 h⟩
    next => cases h
  · rintro ⟨digits, rest, rfl, hnumber⟩
    have hdigits : (digits ++ '.' :: rest).takeWhile Char.isDigit = digits := by
      rw [List.takeWhile_append_of_pos hnumber.2.1,
        List.takeWhile_cons_of_neg (by decide), List.append_nil]
    rw [hdigits, List.drop_left]
    exact Text.toNat?_eq_some_iff.2 hnumber

theorem section?_eq_none_iff : section? line = none ↔ ∀ number, ¬Opens line number := by
  rw [Option.eq_none_iff_forall_ne_some]
  exact forall_congr' fun number => not_congr section?_eq_some_iff

theorem candidate_iff : Candidate line ↔ section? line = none ∧ isEntry line = true := by
  rw [section?_eq_none_iff, isEntry, Bool.and_eq_true, bne_iff_ne, List.contains_iff_mem]
  constructor
  · rintro ⟨hopens, -, hhead, hmem⟩
    exact ⟨hopens, hhead, hmem⟩
  · rintro ⟨hopens, hhead, hmem⟩
    exact ⟨hopens, List.ne_nil_of_mem hmem, hhead, hmem⟩

theorem skips_of_action {body : Text} (h : RuleFile.action number line trigger body = .error p) :
    p.Skips := by
  rw [RuleFile.action] at h
  split_ifs at h
  · split at h
    · cases h
    · obtain rfl := Except.error.inj h
      exact .inl rfl
  · split at h
    · cases h
    · obtain rfl := Except.error.inj h
      exact .inr rfl

theorem skips_of_entry (h : entry number line = .error p) : p.Skips := by
  rw [entry] at h
  dsimp only at h
  split_ifs at h
  · obtain rfl := Except.error.inj h
    exact .inl rfl
  · cases ha : RuleFile.action number line _ _ with
    | error q =>
      rw [ha] at h
      obtain rfl := Except.error.inj h
      exact skips_of_action ha
    | ok a =>
      rw [ha] at h
      cases h

/-- What a line gives that stands in a section: one rule, perhaps with warnings of its patterns, or
one warning that it is passed over, if it is a candidate; otherwise nothing. -/
def Gives (number n : Nat) (line : Text) (set : RuleSet) : Prop :=
  (Candidate line →
    (∃ trigger action, entry number line = .ok (trigger, action) ∧
      set.rules = [⟨trigger, action, n⟩] ∧ ∀ w ∈ set.warnings, ¬w.problem.Skips) ∨
    ∃ p, entry number line = .error p ∧ set.rules = [] ∧ set.warnings = [⟨n, p⟩] ∧ p.Skips) ∧
  (¬Candidate line → set.rules = [] ∧ set.warnings = [])

def readLine (number n : Nat) (line : Text) : RuleSet :=
  if section? line = none ∧ isEntry line = true then readEntry number n line else .empty

theorem readLine_of_candidate (h : Candidate line) (number n : Nat) :
    readLine number n line = readEntry number n line :=
  if_pos (candidate_iff.1 h)

theorem readLine_of_not_candidate (h : ¬Candidate line) (number n : Nat) :
    readLine number n line = .empty :=
  if_neg (mt candidate_iff.2 h)

theorem readLine_cases (number n : Nat) (line : Text) :
    (Candidate line ∧ ∃ trigger action, entry number line = .ok (trigger, action) ∧
      readLine number n line = .ofRule ⟨trigger, action, n⟩) ∨
    (Candidate line ∧ ∃ p, entry number line = .error p ∧ readLine number n line = .ofProblem n p) ∨
    ¬Candidate line ∧ readLine number n line = .empty := by
  by_cases hc : Candidate line
  · rw [readLine_of_candidate hc, readEntry]
    cases he : entry number line with
    | ok a => exact .inl ⟨hc, a.1, a.2, rfl, rfl⟩
    | error p => exact .inr (.inl ⟨hc, p, rfl, rfl⟩)
  · exact .inr (.inr ⟨hc, readLine_of_not_candidate hc number n⟩)

theorem gives_readLine (number n : Nat) (line : Text) :
    Gives number n line (readLine number n line) := by
  rcases readLine_cases number n line with ⟨hc, trigger, action, he, h⟩ | ⟨hc, p, he, h⟩ | ⟨hc, h⟩
  · rw [h]
    exact ⟨fun _ => .inl ⟨trigger, action, he, rfl,
      fun w hw => (RuleSet.eq_of_mem_warnings_ofRule hw).2⟩, fun hn => absurd hc hn⟩
  · rw [h]
    exact ⟨fun _ => .inr ⟨p, he, rfl, rfl, skips_of_entry he⟩, fun hn => absurd hc hn⟩
  · rw [h]
    exact ⟨fun hy => absurd hy hc, fun _ => ⟨rfl, rfl⟩⟩

theorem within_readLine (number n : Nat) (line : Text) :
    (readLine number n line).Within n (n + 1) := by
  rcases readLine_cases number n line with ⟨-, trigger, action, -, h⟩ | ⟨-, p, -, h⟩ | ⟨-, h⟩
  · rw [h]
    exact RuleSet.within_ofRule ⟨trigger, action, n⟩
  · rw [h]
    exact RuleSet.within_ofProblem n p
  · rw [h]
    exact RuleSet.within_empty n (n + 1)

theorem ordered_readLine (number n : Nat) (line : Text) : (readLine number n line).Ordered := by
  rcases readLine_cases number n line with ⟨-, trigger, action, -, h⟩ | ⟨-, p, -, h⟩ | ⟨-, h⟩
  · rw [h]
    exact RuleSet.ordered_ofRule _
  · rw [h]
    exact RuleSet.ordered_ofProblem n p
  · rw [h]
    exact RuleSet.ordered_empty

theorem readLine_eq_of_mem {r : Rule} (h : r ∈ (readLine number n line).rules) :
    readLine number n line = .ofRule r ∧ r.line = n := by
  rcases readLine_cases number n line with ⟨-, trigger, action, -, hr⟩ | ⟨-, p, -, hr⟩ | ⟨-, hr⟩
  · rw [hr] at h ⊢
    obtain rfl := List.mem_singleton.1 h
    exact ⟨rfl, rfl⟩
  · rw [hr] at h
    cases h
  · rw [hr] at h
    cases h

end Line

section Lines

def openAfter (number : Nat) (lines : List Text) : Nat :=
  lines.foldl (fun number line => (section? line.trim).getD number) number

theorem openAfter_singleton (number : Nat) (line : Text) :
    openAfter number [line] = (section? line.trim).getD number := rfl

theorem openAfter_concat (number : Nat) (above : List Text) (line : Text) :
    openAfter number (above ++ [line]) = (section? line.trim).getD (openAfter number above) := by
  rw [openAfter, List.foldl_append, List.foldl_cons, List.foldl_nil, openAfter]

/-- The nearest line above that opens a section opens this one; before the first such line section 1
is open. -/
def StandsIn (above : List Text) (number : Nat) : Prop :=
  (∃ before line between, above = before ++ line :: between ∧ Opens line.trim number ∧
    ∀ l ∈ between, ∀ m, ¬Opens l.trim m) ∨
  number = 1 ∧ ∀ l ∈ above, ∀ m, ¬Opens l.trim m

theorem standsIn_nil : StandsIn [] number ↔ number = 1 := by
  constructor
  · rintro (⟨before, line, between, h, -⟩ | ⟨h, -⟩)
    · cases before <;> cases h
    · exact h
  · intro h
    exact .inr ⟨h, nofun⟩

theorem standsIn_concat : StandsIn (above ++ [line]) number ↔
    Opens line.trim number ∨ (∀ m, ¬Opens line.trim m) ∧ StandsIn above number := by
  constructor
  · rintro (⟨before, l, between, h, hl, hbetween⟩ | ⟨rfl, h⟩)
    · rcases List.eq_nil_or_concat between with rfl | ⟨between, m, rfl⟩
      · obtain rfl := List.singleton_inj.1 (List.append_inj_right' h rfl)
        exact .inl hl
      · rw [List.concat_eq_append] at h hbetween
        rw [← List.cons_append, ← List.append_assoc] at h
        obtain rfl := List.singleton_inj.1 (List.append_inj_right' h rfl)
        rw [List.forall_mem_append] at hbetween
        exact .inr ⟨hbetween.2 line (List.mem_singleton_self line),
          .inl ⟨before, l, between, List.append_inj_left' h rfl, hl, hbetween.1⟩⟩
    · rw [List.forall_mem_append] at h
      exact .inr ⟨h.2 line (List.mem_singleton_self line), .inr ⟨rfl, h.1⟩⟩
  · rintro (h | ⟨h, ⟨before, l, between, rfl, hl, hbetween⟩ | ⟨rfl, habove⟩⟩)
    · exact .inl ⟨above, line, [], rfl, h, nofun⟩
    · refine .inl ⟨before, l, between ++ [line], by simp, hl, ?_⟩
      exact List.forall_mem_append.2 ⟨hbetween, List.forall_mem_singleton.2 h⟩
    · exact .inr ⟨rfl, List.forall_mem_append.2 ⟨habove, List.forall_mem_singleton.2 h⟩⟩

theorem standsIn_iff : StandsIn above number ↔ number = openAfter 1 above := by
  induction above using List.reverseRecOn with
  | nil => exact standsIn_nil
  | append_singleton above line ih =>
    rw [standsIn_concat, ih, openAfter_concat]
    cases h : section? line.trim with
    | some m =>
      have hm : Opens line.trim m := section?_eq_some_iff.1 h
      have hnumber : Opens line.trim number ↔ number = m := by
        rw [← section?_eq_some_iff, h, Option.some.injEq, eq_comm]
      rw [hnumber, Option.getD_some, or_iff_left fun hnone => hnone.1 m hm]
    | none =>
      rw [section?_eq_none_iff] at h
      rw [or_iff_right (h number), and_iff_right h, Option.getD_none]

theorem readLines_cons (number n : Nat) (line : Text) (rest : List Text) :
    readLines number n (line :: rest) =
      (readLine number n line.trim).append (readLines (openAfter number [line]) (n + 1) rest) := by
  rw [readLines, readLine, openAfter_singleton]
  cases section? line.trim with
  | some opened => rfl
  | none =>
    dsimp only
    cases isEntry line.trim <;> rfl

theorem readLines_append (number n : Nat) (a b : List Text) :
    readLines number n (a ++ b) =
      (readLines number n a).append (readLines (openAfter number a) (n + a.length) b) := by
  induction a generalizing number n with
  | nil => rfl
  | cons line rest ih =>
    rw [List.cons_append, readLines_cons, readLines_cons, ih, RuleSet.append_assoc,
      List.length_cons, Nat.add_assoc, Nat.add_comm 1]
    rfl

theorem within_readLines (number n : Nat) (lines : List Text) :
    (readLines number n lines).Within n (n + lines.length) := by
  induction lines generalizing number n with
  | nil => exact RuleSet.within_empty n n
  | cons line rest ih =>
    rw [readLines_cons, List.length_cons]
    exact ((within_readLine number n line.trim).mono (Nat.le_refl n) (by omega)).append
      ((ih _ (n + 1)).mono (by omega) (by omega))

theorem ordered_readLines (number n : Nat) (lines : List Text) :
    (readLines number n lines).Ordered := by
  induction lines generalizing number n with
  | nil => exact RuleSet.ordered_empty
  | cons line rest ih =>
    rw [readLines_cons]
    exact (ordered_readLine number n line.trim).append (ih _ (n + 1))
      (within_readLine number n line.trim) (within_readLines _ (n + 1) rest)

/-- What a line gives depends on the lines above by the section that stands open, and not on the
lines below. -/
theorem onLine_readLines (number n : Nat) (above : List Text) (line : Text) (below : List Text) :
    (readLines number n (above ++ line :: below)).onLine (n + above.length) =
      readLine (openAfter number above) (n + above.length) line.trim := by
  rw [readLines_append, readLines_cons, RuleSet.onLine_append, RuleSet.onLine_append,
    RuleSet.onLine_of_outside (within_readLines number n above) (.inr (Nat.le_refl _)),
    RuleSet.onLine_of_within (within_readLine _ _ _),
    RuleSet.onLine_of_outside (within_readLines _ _ below) (.inl (Nat.lt_succ_self _)),
    RuleSet.empty_append, RuleSet.append_empty]

theorem exists_line_of_within {i : Nat} (h : 1 ≤ i ∧ i < lines.length + 1) :
    ∃ above line below, lines = above ++ line :: below ∧ i = above.length + 1 := by
  have hi : i - 1 < lines.length := by omega
  refine ⟨lines.take (i - 1), lines[i - 1], lines.drop (i - 1 + 1), ?_, ?_⟩
  · rw [List.getElem_cons_drop, List.take_append_drop]
  · rw [List.length_take]
    omega

end Lines

end RuleFile

namespace RuleSet

variable {t line : Text} {above below : List Text} {r : Rule}

open RuleFile

theorem onLine_read (h : t.lines = above ++ line :: below) :
    (read t).onLine (above.length + 1) =
      readLine (openAfter 1 above) (above.length + 1) line.trim := by
  rw [read, h, Nat.add_comm, onLine_readLines]

theorem within_read (t : Text) : (read t).Within 1 (t.lines.length + 1) :=
  Nat.add_comm 1 _ ▸ within_readLines 1 1 t.lines

theorem ordered_read (t : Text) : (read t).Ordered := ordered_readLines 1 1 t.lines

theorem gives_read (h : t.lines = above ++ line :: below) :
    Gives (openAfter 1 above) (above.length + 1) line.trim ((read t).onLine (above.length + 1)) :=
  onLine_read h ▸ gives_readLine _ _ _

/-- The line of a rule gives the rule and warnings of its patterns only. -/
theorem onLine_of_mem_read (h : r ∈ (read t).rules) : (read t).onLine r.line = ofRule r := by
  obtain ⟨above, line, below, hlines, hline⟩ := exists_line_of_within ((within_read t).rules r h)
  have hmem : r ∈ ((read t).onLine r.line).rules := List.mem_filter.2 ⟨h, decide_eq_true rfl⟩
  rw [hline, onLine_read hlines] at hmem ⊢
  exact (readLine_eq_of_mem hmem).1

theorem warnings_read_eq_nil_iff : (read t).warnings = [] ↔
    ∀ above line below, t.lines = above ++ line :: below → Candidate line.trim →
      ∃ r ∈ (read t).rules, r.line = above.length + 1 ∧ r.isMatchable ∧ ¬r.Broken := by
  constructor
  · intro h above line below hlines hc
    have hquiet : ((read t).onLine (above.length + 1)).warnings = [] := by
      rw [onLine, h, List.filter_nil]
    rcases (gives_read hlines).1 hc with ⟨trigger, action, -, hrules, -⟩ | ⟨p, -, -, hwarnings, -⟩
    · have hmem : (⟨trigger, action, above.length + 1⟩ : Rule) ∈ (read t).rules :=
        (List.mem_filter.1 (hrules ▸ List.mem_singleton_self _)).1
      rw [onLine_of_mem_read hmem] at hquiet
      exact ⟨_, hmem, rfl, warnings_ofRule_eq_nil_iff.1 hquiet⟩
    · rw [hwarnings] at hquiet
      cases hquiet
  · intro h
    rw [List.eq_nil_iff_forall_not_mem]
    intro w hw
    obtain ⟨above, line, below, hlines, hline⟩ :=
      exists_line_of_within ((within_read t).warnings w hw)
    have hmem : w ∈ ((read t).onLine (above.length + 1)).warnings :=
      List.mem_filter.2 ⟨hw, decide_eq_true hline⟩
    by_cases hc : Candidate line.trim
    · obtain ⟨r, hr, hn, hsound⟩ := h above line below hlines hc
      rw [← hn, onLine_of_mem_read hr, warnings_ofRule_eq_nil_iff.2 hsound] at hmem
      cases hmem
    · rw [((gives_read hlines).2 hc).2] at hmem
      cases hmem

end RuleSet

end Dictation
