import Dictation.Proofs.Rule.Precedence
import Dictation.Proofs.Session.Segment

namespace Dictation.Session

/-- A session whose segment is over. Unlike at the end of a segment, what is pending stays. -/
def closed (s : Session) : Session := { s with ignoring := true }

section Closed

variable (s : Session)

theorem document_closed : s.closed.document = s.document := rfl

theorem history_closed : s.closed.history = s.history := rfl

theorem endSegment_of_pending {s : Session} (hp : s.pending = []) : s.endSegment = s.closed := by
  rw [endSegment, closed, hp]

theorem undo_closed : s.closed.undo = s.undo.map closed id := by
  rw [undo, undo, history_closed]
  cases s.history.undo? <;> rfl

theorem redo_closed : s.closed.redo = s.redo.map closed id := by
  rw [redo, redo, history_closed]
  cases s.history.redo? <;> rfl

theorem perform_closed (c : Command) : s.closed.perform c = (s.perform c).map closed id := by
  cases c with
  | undo => exact s.undo_closed
  | redo => exact s.redo_closed
  | stop | discard | process | execute => rfl

theorem apply_closed (rule : Option Rule) (text : Text) :
    s.closed.apply rule text = (s.apply rule text).map closed id := by
  rw [apply, apply, document_closed]
  cases s.document.effect rule text with
  | error f => rfl
  | ok e =>
    cases e with
    | edit d v => rfl
    | command c => exact congrArg (Prod.map id Except.ok) (s.perform_closed c)
    | unchanged => rfl

end Closed

variable {s : Session} {u : Text}

theorem process_eq_apply (hu : u.trim ≠ []) : s.process u = s.apply (s.rules.whole? u) u.trim := by
  rw [process, if_neg (mt List.isEmpty_iff.1 hu), RuleSet.whole?_trim]

theorem process_trim (s : Session) (u : Text) : s.process u.trim = s.process u := by
  rw [process, process, Text.trim_trim]

theorem ignoring_process_of_whole? (hw : s.rules.whole? u = none) :
    (s.process u).1.ignoring = s.ignoring := by
  by_cases hu : u.trim = []
  · rw [process, if_pos (List.isEmpty_iff.2 hu)]
  · rw [process_eq_apply hu, hw, apply, Document.effect]
    cases s.document.dictation? u.trim <;> rfl

/-- A session in which nothing waits, and that puts dictation in at once, hears in full what it
would make of the utterance as a finished text, down to the fault. It differs at most in that it
ignores the rest of the segment, and it does so just when a rule matched the whole utterance. -/
theorem hear_eq_process (hs : s.Hears) (ha : s.autoProcess = true) (hp : s.pending = [])
    (hu : ∃ c ∈ u, Character.isBlank c = false)
    (ht : ∀ c : Command, c.isTail = true → ∀ r ∈ s.rules.rules, ¬r.Fires c u.trim) :
    s.hear u true =
      ({ (s.process u).1 with ignoring := s.rules.rules.any (·.matchesWhole u) },
        (s.process u).2) := by
  have hne : u.trim ≠ [] := by
    rw [Ne, Text.trim_eq_nil_iff]
    obtain ⟨c, hc, hblank⟩ := hu
    exact fun h => Bool.false_ne_true (hblank.symm.trans (h c hc))
  have hheard : s.transcript u = u.trim := transcript_of_pending hp
  have hroute : s.rules.route (s.transcript u) = (s.rules.whole? u).elim .dictation .rule := by
    rw [hheard, RuleSet.route_of_not_fires ht, RuleSet.whole?_trim]
  rw [RuleSet.any_matchesWhole]
  cases hw : s.rules.whole? u with
  | some r =>
    rw [hw] at hroute
    rw [hear_of_rule hs hroute, hheard, Text.trim_trim, endSegment_of_pending hp, apply_closed,
      process_eq_apply hne, hw]
    rfl
  | none =>
    rw [hw] at hroute
    have hsame : { s with pending := [] } = s := by rw [← hp]
    have hopen : (s.process u).1.ignoring = false := (ignoring_process_of_whole? hw).trans hs.2
    rw [hear_final_of_autoProcess hs hroute ha, hheard, hsame, process_trim, Option.isSome_none,
      ← hopen]

theorem hear_eq_process_of_undo :
    let rules : List Rule :=
      [⟨['(', '?', '-', 'i', ')', 'p'], .command .process, 1⟩,
        ⟨['(', '?', '-', 'i', ')', 'u'], .command .undo, 2⟩]
    let s := (start ⟨rules, []⟩ (.atEnd ['k'])).replaceDocument (.atEnd ['k', 'l']) true
    (s.Hears ∧ s.autoProcess = true ∧ s.pending = [] ∧
      (∃ c ∈ [' ', 'u'], Character.isBlank c = false) ∧
      ∀ c : Command, c.isTail = true → ∀ r ∈ rules, ¬r.Fires c (Text.trim [' ', 'u'])) ∧
    s.hear [' ', 'u'] true = ({ (s.process [' ', 'u']).1 with ignoring := true },
      .ok (.undone [⟨1, 1⟩])) := by
  intro rules s
  have hu : ∃ c ∈ [' ', 'u'], Character.isBlank c = false := ⟨'u', by decide, by decide⟩
  have ht : ∀ c : Command, c.isTail = true → ∀ r ∈ rules, ¬r.Fires c (Text.trim [' ', 'u']) := by
    intro c hc r hr hf
    have hsome : (r.tailMatch? (Text.trim [' ', 'u'])).isSome = true :=
      Option.isSome_iff_exists.2 hf.2
    rcases List.mem_pair.1 hr with rfl | rfl
    · exact absurd hsome (by decide)
    · obtain rfl := Option.some.inj hf.1
      cases hc
  have hmatched : s.rules.rules.any (·.matchesWhole [' ', 'u']) = true := by decide
  have hundone : (s.process [' ', 'u']).2 = .ok (.undone [⟨1, 1⟩]) := by decide
  have h := hear_eq_process (s := s) ⟨rfl, rfl⟩ rfl rfl hu ht
  rw [hmatched, hundone] at h
  exact ⟨⟨⟨rfl, rfl⟩, rfl, rfl, hu, ht⟩, h⟩

end Dictation.Session
