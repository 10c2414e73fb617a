import Dictation.Proofs.Console.Running
import Dictation.Proofs.Rule.File

namespace Dictation.Console

open RuleFile (Candidate Gives StandsIn openAfter standsIn_iff)

variable {settings : Settings} {f : Folder} {t : Text}

theorem checkReport_fst_eq_zero_iff {set : RuleSet} :
    (checkReport set).1 = 0 ↔ set.warnings = [] := by
  rw [checkReport]
  cases set.warnings with
  | nil => simp
  | cons w ws => simp

theorem check_run (bindings : List (Text × Text)) (input : List Text)
    (h : rulesIn f settings = .ok t) :
    ((check (Folder.host bindings input) settings).run f).1 = (checkReport (.read t)).1 := by
  rw [check, run_bind_of (rulesText_run f), h]
  rfl

/-- Reading accounts for every line of a rule file. A candidate gives one rule or one warning, told
by the line and by the section it stands in; other lines give nothing. A rule is warned of besides
for each pattern of it that is faulty. -/
theorem lines_accounted_for (t : Text) :
    (∀ above line below, t.lines = above ++ line :: below →
      ∃ number, (∀ m, StandsIn above m ↔ m = number) ∧
        Gives number (above.length + 1) line.trim ((RuleSet.read t).onLine (above.length + 1))) ∧
    (RuleSet.read t).Within 1 (t.lines.length + 1) ∧ (RuleSet.read t).Ordered ∧
    (∀ r ∈ (RuleSet.read t).rules, ((RuleSet.read t).onLine r.line).warnings =
      (if r.isMatchable then [] else [⟨r.line, .trigger r.trigger⟩]) ++
        if r.Broken then [⟨r.line, .operation r.trigger⟩] else []) ∧
    ∀ (bindings : List (Text × Text)) (input : List Text) (settings : Settings) (f : Folder),
      rulesIn f settings = .ok t →
      (((check (Folder.host bindings input) settings).run f).1 = 0 ↔
        ∀ above line below, t.lines = above ++ line :: below → Candidate line.trim →
          ∃ r ∈ (RuleSet.read t).rules, r.line = above.length + 1 ∧ r.isMatchable ∧ ¬r.Broken) := by
  refine ⟨?_, RuleSet.within_read t, RuleSet.ordered_read t, ?_, ?_⟩
  · intro above line below hlines
    exact ⟨openAfter 1 above, fun m => standsIn_iff, RuleSet.gives_read hlines⟩
  · intro r hr
    rw [RuleSet.onLine_of_mem_read hr, RuleSet.warnings_ofRule]
  · intro bindings input settings f hrules
    rw [check_run bindings input hrules, checkReport_fst_eq_zero_iff,
      RuleSet.warnings_read_eq_nil_iff]

def checkedText : Text :=
  ['#', 'a', '=', '\n', '2', '.', '\n', '(', '?', '-', 'i', ')', 'x', '=', 'y']

theorem lines_accounted_for_of_substitution :
    let above : List Text := [['#', 'a', '='], ['2', '.']]
    let line : Text := ['(', '?', '-', 'i', ')', 'x', '=', 'y']
    let settings : Settings := { Settings.default with rulesPath := some ['r'] }
    let f : Folder := ⟨[(['r'], checkedText)], [], []⟩
    checkedText.lines = above ++ line :: [] ∧ Candidate line.trim ∧ StandsIn above 2 ∧
      ((RuleSet.read checkedText).onLine 3).rules =
        [⟨['(', '?', '-', 'i', ')', 'x'], .substitution ['y'], 3⟩] ∧
      rulesIn f settings = .ok checkedText ∧ ((check (Folder.host [] []) settings).run f).1 = 0 ∧
      ∃ r ∈ (RuleSet.read checkedText).rules, r.line = 3 ∧ r.isMatchable ∧ ¬r.Broken := by
  intro above line settings f
  obtain ⟨hlines, -, -, -, hcheck⟩ := lines_accounted_for checkedText
  have hsplit : checkedText.lines = above ++ line :: [] := by decide
  have hc : Candidate line.trim := RuleFile.candidate_iff.2 (by decide)
  obtain ⟨number, hnumber, hgives, -⟩ := hlines above line [] hsplit
  have hstands : StandsIn above 2 := standsIn_iff.2 (by decide)
  obtain rfl := (hnumber 2).1 hstands
  have hentry : RuleFile.entry 2 line.trim = .ok (['(', '?', '-', 'i', ')', 'x'],
      .substitution ['y']) := by decide
  have hread : ((RuleSet.read checkedText).onLine 3).rules =
      [⟨['(', '?', '-', 'i', ')', 'x'], .substitution ['y'], 3⟩] := by
    rcases hgives hc with ⟨trigger, action, he, hr, -⟩ | ⟨p, he, -⟩
    · cases hentry.symm.trans he
      exact hr
    · cases hentry.symm.trans he
  have hrules : rulesIn f settings = .ok checkedText := by decide
  have hcode : ((check (Folder.host [] []) settings).run f).1 = 0 := by
    rw [check_run [] [] hrules]
    decide
  exact ⟨hsplit, hc, hstands, hread, hrules, hcode,
    (hcheck [] [] settings f hrules).1 hcode above line [] hsplit hc⟩

end Dictation.Console
