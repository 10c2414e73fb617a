import Dictation.Proofs.Console.Running
import Dictation.Proofs.Routing
import Dictation.Proofs.Session.Hearing
import Dictation.Proofs.Session.Reversal
import Mathlib.Logic.Function.Iterate

namespace Dictation

namespace Session

variable {s : Session} {h : History}

theorem undo_of_undo?_eq_none (hs : s.history.undo? = none) : s.undo = (s, .nothingToUndo) := by
  rw [undo, hs]

theorem iterate_undo_of_undo?_eq_none (hs : s.history.undo? = none) (n : Nat) :
    (fun s : Session => s.undo.1)^[n] s = s :=
  Function.iterate_fixed (congrArg Prod.fst (undo_of_undo?_eq_none hs)) n

theorem iterate_undo_of_undo? (hs : s.history.undo? = some h) (hh : h.undo? = none) (n : Nat) :
    (fun s : Session => s.undo.1)^[n + 1] s = (s.restore h .undone).1 := by
  rw [Function.iterate_succ_apply, undo_of_undo? hs]
  exact iterate_undo_of_undo?_eq_none hh n

theorem apply_of_undo {r : Rule} (hr : r.command? = some .undo) (text : Text) :
    s.apply (some r) text = (s.undo.1, .ok s.undo.2) := by
  have haction : r.action = .command .undo := by
    rw [Rule.command?] at hr
    split at hr
    · next c haction => rw [haction, Option.some.inj hr]
    · cases hr
  rw [apply, Document.effect, Rule.effect, haction]
  rfl

theorem process_of_selected? {r : Rule} {text : Text} (h : s.rules.selected? text = some r) :
    s.process text = s.apply (some r) text.trim := by
  simp only [RuleSet.selected?, Option.ite_none_left_eq_some] at h
  rw [process, if_neg h.1, h.2]

end Session

namespace Console

variable {s : Session} {rules text u : Text} {us : List Text} {settings : Settings} {f : Folder}

/-- An utterance that comes to an undo when nothing is pending: it belongs to a rule with this
command, or the text does that it hands over to be processed. -/
def SaysUndo (set : RuleSet) (u : Text) : Prop :=
  ∃ r : Rule, r.command? = some .undo ∧
    (set.route u.trim = .rule r ∨ ∃ before, set.route u.trim = .process before ∧
      set.selected? before.trim = some r)

theorem hearSegment_of_saysUndo (hs : s.Hears) (hpending : s.pending = [])
    (hu : SaysUndo s.rules u) : hearSegment s u = (s.undo.1, .ok s.undo.2) := by
  obtain ⟨r, hr, hroute⟩ := hu
  have htranscript : s.transcript u = u.trim := Session.transcript_of_pending hpending
  rw [← htranscript] at hroute
  have hundone : followUp (s.hear u true) = (s.endSegment.undo.1, .ok s.endSegment.undo.2) := by
    rcases hroute with hrule | ⟨before, hprocess, hselected⟩
    · rw [Session.hear_of_rule hs hrule, Session.apply_of_undo hr, Session.undo]
      cases s.endSegment.history.undo? <;> rfl
    · rw [Session.hear_of_process hs hprocess]
      exact (Session.process_of_selected? (s := s.endSegment) hselected).trans
        (Session.apply_of_undo hr _)
  -- Ending the segment and beginning another one leaves a session as it was that
  -- has nothing pending.
  have hsegment : (s.endSegment.undo.1.beginSegment, s.endSegment.undo.2) = s.undo := by
    obtain ⟨_, _, _, history, _, ignoring, pending, _, _⟩ := s
    obtain rfl : ignoring = false := hs.2
    obtain rfl : pending = [] := hpending
    simp only [Session.undo, Session.endSegment]
    cases history.undo? <;> rfl
  rw [hearSegment, hundone, ← hsegment]

theorem hearAll_of_saysUndo (hs : s.Hears) (hpending : s.pending = [])
    (hus : ∀ u ∈ us, SaysUndo s.rules u) :
    hearAll s us = .ok ((fun s : Session => s.undo.1)^[us.length] s) := by
  induction us generalizing s with
  | nil => rfl
  | cons u us ih =>
    obtain ⟨hu, hus⟩ := List.forall_mem_cons.1 hus
    have hsame : s.undo.1.Hears ∧ s.undo.1.pending = [] ∧ s.undo.1.rules = s.rules := by
      rw [Session.undo]
      cases s.history.undo? with
      | none => exact ⟨hs, hpending, rfl⟩
      | some h => exact ⟨hs, hpending, rfl⟩
    rw [hearAll, hearSegment_of_saysUndo hs hpending hu]
    exact ih hsame.1 hsame.2.1 (hsame.2.2 ▸ hus)

theorem hearAll_start_of_saysUndo (hus : ∀ u ∈ us, SaysUndo (.read rules) u) :
    hearAll (settings.started rules (some text)) us =
      .ok (settings.started rules (some text)) := by
  rw [hearAll_of_saysUndo ⟨rfl, rfl⟩ rfl hus]
  have hundo := History.undo?_push_empty (Nat.le_max_right settings.capacity 1)
  exact congrArg _ (Session.iterate_undo_of_undo?_eq_none (hundo _) us.length)

/-- Applied to a text, utterances that undo leave the empty document it took the place of, if there
is room for its snapshot. -/
theorem applyAll_of_saysUndo (hus : ∀ u ∈ us, SaysUndo (.read rules) u) :
    applyAll (settings.started rules none) text us =
      .ok (if us = [] ∨ settings.capacity ≤ 1 then Marker.strip text else []) := by
  let s := (settings.started rules none).replaceDocument (.atEnd text) true
  have hhear : hearAll s us = .ok ((fun s : Session => s.undo.1)^[us.length] s) :=
    hearAll_of_saysUndo ⟨rfl, rfl⟩ rfl hus
  have hundo : s.history.undo? = if settings.capacity ≤ 1 ∨ Marker.strip text = [] then none else
      some ((History.Zipper.mk [] [] [Marker.strip text]).toHistory (max settings.capacity 1)) := by
    have hroom : max settings.capacity 1 ≤ 1 ↔ settings.capacity ≤ 1 := by omega
    simp only [← hroom]
    exact History.undo?_push_push_empty (Nat.le_max_right _ 1) [] (Marker.strip text)
  have hleft : ((fun s : Session => s.undo.1)^[us.length] s).document.snapshot =
      if us = [] ∨ settings.capacity ≤ 1 then Marker.strip text else [] := by
    by_cases hnone : settings.capacity ≤ 1 ∨ Marker.strip text = []
    · rw [if_pos hnone] at hundo
      rw [Session.iterate_undo_of_undo?_eq_none hundo]
      change Marker.strip text = _
      rcases hnone with hc | hempty
      · rw [if_pos (.inr hc)]
      · rw [hempty, ite_self]
    · rw [if_neg hnone] at hundo
      cases us with
      | nil => rfl
      | cons u us =>
        rw [List.length_cons, Session.iterate_undo_of_undo? hundo rfl]
        have hone : ¬(u :: us = [] ∨ settings.capacity ≤ 1) := by simp [not_or.1 hnone]
        rw [if_neg hone]
        rfl
  rw [applyAll, hhear, ← hleft]
  rfl

variable (text) (bindings : List (Text × Text)) (input : List Text)

/-- Utterances that all undo print the text they are applied to, without its markers, just when
there are none of them, when the history has no room for the empty document below the text, or when
nothing is left of the text without its markers. Otherwise they print an empty line. Where there can
be no history of the capacity in the settings, the program fails and only the errors tell of it. -/
theorem apply_of_saysUndo (hrules : rulesIn f settings = .ok rules)
    (hus : ∀ u ∈ us, SaysUndo (.read rules) u) :
    let printed := if us = [] ∨ settings.capacity ≤ 1 then Marker.strip text else []
    (settings.capacity ≤ History.maxCapacity →
      (apply (Folder.host bindings input) settings text us).run f =
        (0, { f with out := f.out ++ (printed ++ ['\n']) })) ∧
    (History.maxCapacity < settings.capacity → ∃ err,
      (apply (Folder.host bindings input) settings text us).run f = (101, { f with err })) ∧
    (printed = Marker.strip text ↔
      us = [] ∨ settings.capacity ≤ 1 ∨ Marker.strip text = []) := by
  intro printed
  refine ⟨fun hcapacity => ?_, fun hcapacity => ?_, ?_⟩
  · rw [apply, run_bind_of (rulesText_run f), hrules]
    dsimp only
    rw [Settings.start?_of_le hcapacity]
    dsimp only
    rw [applyAll_of_saysUndo hus]
    rfl
  · rw [apply, run_bind_of (rulesText_run f), hrules]
    dsimp only
    rw [Settings.start?_eq_none_iff.2 hcapacity]
    exact ⟨_, fail_run bindings input f .overflow⟩
  · rw [← or_assoc]
    by_cases h : us = [] ∨ settings.capacity ≤ 1
    · simp [printed, h]
    · simp only [printed, if_neg h, h, false_or]
      exact eq_comm

def undoText : Text := ['1', '.', '\n', '(', '?', '-', 'i', ')', 'u', '=', '#', 'u', 'n', 'd', 'o']

theorem saysUndo_undoText : SaysUndo (.read undoText) ['u'] :=
  ⟨⟨['(', '?', '-', 'i', ')', 'u'], .command .undo, 2⟩, rfl, .inl (by decide)⟩

theorem apply_of_saysUndo_twice :
    let settings : Settings := { Settings.default with rulesPath := some ['r'], capacity := 2 }
    let f : Folder := ⟨[(['r'], undoText)], [], []⟩
    (rulesIn f settings = .ok undoText ∧ (∀ u ∈ [['u'], ['u']], SaysUndo (.read undoText) u) ∧
        settings.capacity ≤ History.maxCapacity) ∧
      (apply (Folder.host [] []) settings ['a'] [['u'], ['u']]).run f =
        (0, { f with out := ['\n'] }) := by
  intro settings f
  have hrules : rulesIn f settings = .ok undoText := by decide
  have hus : ∀ u ∈ [['u'], ['u']], SaysUndo (.read undoText) u := by
    simp only [List.forall_mem_cons, saysUndo_undoText, List.not_mem_nil, false_imp_iff,
      implies_true, and_self]
  have hcapacity : settings.capacity ≤ History.maxCapacity := by decide
  exact ⟨⟨hrules, hus, hcapacity⟩, (apply_of_saysUndo ['a'] [] [] hrules hus).1 hcapacity⟩

/-- An undo applied to a text prints the empty document that was there before it. -/
theorem not_printed_of_saysUndo :
    let settings : Settings := { Settings.default with rulesPath := some ['r'] }
    let f : Folder := ⟨[(['r'], undoText)], [], []⟩
    rulesIn f settings = .ok undoText ∧ SaysUndo (.read undoText) ['u'] ∧
      ((apply (Folder.host [] []) settings ['a'] [['u']]).run f).2.out = ['\n'] ∧
      ((apply (Folder.host [] []) settings ['a'] [['u']]).run f).2.out ≠
        Marker.strip ['a'] ++ ['\n'] := by
  intro settings f
  have hout : ((apply (Folder.host [] []) settings ['a'] [['u']]).run f).2.out = ['\n'] := by
    decide +kernel
  refine ⟨by decide, saysUndo_undoText, hout, ?_⟩
  rw [hout]
  decide

end Console

end Dictation
