import Dictation.Proofs.Session.Alike
import Dictation.Proofs.Session.Invariant

namespace Dictation

namespace Text

variable {t m : Text} {i j : Nat}

theorem floor_eq_self_iff : t.floor i = i ↔ t.IsBoundary i :=
  ⟨fun h => h ▸ t.isBoundary_floor i, floor_of_isBoundary⟩

def part? (t : Text) (i j : Nat) : Option Text :=
  if i ≤ j ∧ t.floor i = i ∧ t.floor j = j then some (t.slice i j) else none

theorem part?_eq_some_iff :
    t.part? i j = some m ↔ ∃ a c, t = a ++ m ++ c ∧ a.size = i ∧ (a ++ m).size = j := by
  rw [part?, Option.ite_none_right_eq_some, Option.some.injEq, floor_eq_self_iff, floor_eq_self_iff]
  constructor
  · rintro ⟨⟨hle, hi, hj⟩, rfl⟩
    obtain ⟨a, m, c, rfl, hs⟩ := (show (Selection.mk i j).Valid t from ⟨hle, hi, hj⟩).exists_parts
    obtain ⟨rfl, rfl⟩ := Selection.mk.inj hs
    exact ⟨a, c, by rw [slice_size], rfl, by rw [slice_size]⟩
  · rintro ⟨a, c, rfl, rfl, rfl⟩
    exact ⟨Selection.valid_append a m c, slice_size a m c⟩

theorem part?_of_isBoundary (h : i ≤ j) (hi : t.IsBoundary i) (hj : t.IsBoundary j) :
    t.part? i j = some (t.slice i j) :=
  if_pos ⟨h, floor_of_isBoundary hi, floor_of_isBoundary hj⟩

theorem part?_self (h : t.IsBoundary i) : t.part? i i = some [] := by
  obtain ⟨a, c, rfl, rfl⟩ := h
  exact part?_eq_some_iff.2 ⟨a, c, by rw [List.append_nil], rfl, by rw [List.append_nil]⟩

theorem part?_append {n : Text} {k : Nat} (hm : t.part? i j = some m) (hn : t.part? j k = some n) :
    t.part? i k = some (m ++ n) := by
  obtain ⟨a, r, ht, hi, hj⟩ := part?_eq_some_iff.1 hm
  obtain ⟨b, c, ht', hj', hk⟩ := part?_eq_some_iff.1 hn
  have hcut : a ++ m ++ r = b ++ (n ++ c) := by rw [← ht, ht', List.append_assoc]
  obtain ⟨rfl, rfl⟩ := append_inj_of_size hcut (hj.trans hj'.symm)
  exact part?_eq_some_iff.2 ⟨a, c, by rw [ht]; simp only [List.append_assoc], hi,
    by rw [← hk, ← List.append_assoc]⟩

end Text

namespace Document

def clamp (d : Document) : Document := ofParts d.buffer d.selection

/-- Three parts that the clamped selection cuts the buffer into, every cut within the text and
between characters. -/
structure Cuts (d : Document) (before selected after : Text) : Prop where
  before : d.buffer.part? 0 d.clamped.start = some before
  selected : d.buffer.part? d.clamped.start d.clamped.stop = some selected
  after : d.buffer.part? d.clamped.stop d.buffer.size = some after

theorem clamp_of_valid {d : Document} (hd : d.selection.Valid d.buffer) : d.clamp = d := by
  rw [clamp, ofParts, Selection.clampTo_of_valid hd]

theorem before_atEnd (t : Text) : (atEnd t).before = t := by
  have hthree : atEnd t = ofThree t [] [] := by simp [atEnd, ofThree, Selection.caret]
  rw [hthree, before_ofThree]

theorem dictation?_of_before {d e : Document} (h : d.before = e.before) (u : Text) :
    d.dictation? u = e.dictation? u := by
  rw [dictation?, h]
  rfl

section Parts

variable (d : Document)

theorem cuts : d.Cuts d.before d.selected d.after := by
  have hbuffer := d.buffer_eq_append
  have hstart : d.before.size = d.clamped.start := d.size_before
  have hstop : (d.before ++ d.selected).size = d.clamped.stop := d.size_before_selected
  refine ⟨?_, ?_, ?_⟩ <;> rw [Text.part?_eq_some_iff]
  · exact ⟨[], d.selected ++
      d.after, by rw [List.nil_append, ← List.append_assoc, ← hbuffer], rfl, hstart⟩
  · exact ⟨d.before, d.after, hbuffer, hstart, hstop⟩
  · exact ⟨d.before ++ d.selected, [], by rw [List.append_nil, ← hbuffer], hstop, by rw [← hbuffer]⟩

theorem before_clamp : d.clamp.before = d.before := by
  rw [clamp, ofParts_eq_ofThree, before_ofThree]

theorem selected_clamp : d.clamp.selected = d.selected := by
  rw [clamp, ofParts_eq_ofThree, selected_ofThree]

theorem after_clamp : d.clamp.after = d.after := by
  rw [clamp, ofParts_eq_ofThree, after_ofThree]

theorem tag_clamp : Marker.tag d.clamp = Marker.tag d := by
  rw [Marker.tag, before_clamp, selected_clamp, after_clamp, Marker.tag]

theorem cursorLine_clamp : d.clamp.cursorLine = d.cursorLine := by
  rw [cursorLine, before_clamp, cursorLine]

theorem insert_clamp (t : Text) : d.clamp.insert t = d.insert t := by
  rw [insert, before_clamp, after_clamp, insert]

theorem dictation?_clamp (u : Text) : d.clamp.dictation? u = d.dictation? u :=
  dictation?_of_before d.before_clamp u

theorem replaceMatches_clamp (o : Operation) : d.clamp.replaceMatches o = d.replaceMatches o := by
  rw [replaceMatches, tag_clamp, cursorLine_clamp, replaceMatches]

end Parts

end Document

namespace Rule

variable (r : Rule) (d : Document)

theorem replaceMatches_clamp : r.replaceMatches d.clamp = r.replaceMatches d := by
  rw [replaceMatches, replaceMatches, funext d.replaceMatches_clamp]

theorem effect_clamp : r.effect d.clamp = r.effect d := by
  rw [effect, effect, replaceMatches_clamp]
  cases r.action with
  | command c | replacement pattern template => rfl
  | substitution t => simp only [d.insert_clamp]

theorem valid_of_replaceMatches {e : Marker.Recovered} (h : r.replaceMatches d = .ok e) :
    e.document.selection.Valid e.document.buffer := by
  rw [replaceMatches] at h
  cases ho : r.operation with
  | error f =>
    rw [ho] at h
    cases h
  | ok o =>
    rw [ho] at h
    cases h
    exact Marker.valid_recover _ _

end Rule

theorem Document.effect_clamp (d : Document) (rule : Option Rule) (u : Text) :
    d.clamp.effect rule u = d.effect rule u := by
  cases rule with
  | some r => exact r.effect_clamp d
  | none => simp only [effect, dictation?_clamp, insert_clamp]

namespace Session

/-- The session with the selection of its document clamped. -/
def clamp (s : Session) : Session := { s with document := s.document.clamp }

abbrev clampStep {α : Type} (p : Session × α) : Session × α := p.map clamp id

theorem clamp_of_valid {s : Session} (hs : s.document.selection.Valid s.document.buffer) :
    s.clamp = s := by
  rw [clamp, Document.clamp_of_valid hs]

section Steps

variable (s : Session)

theorem commit_clamp {d : Document} (hd : d.selection.Valid d.buffer)
    (v : Option Marker.Violation) : s.clamp.commit d v = clampStep (s.commit d v) := by
  rw [clampStep, Prod.map, clamp_of_valid (s := (s.commit d v).1) hd]
  rfl

theorem restore_clamp (h : History) (outcome : List Span → Outcome) :
    s.clamp.restore h outcome = clampStep (s.restore h outcome) := by
  rw [clampStep, Prod.map, clamp_of_valid (s := (s.restore h outcome).1) (Document.valid_atEnd _)]
  rfl

theorem undo_clamp : s.clamp.undo = clampStep s.undo := by
  have hsame : s.clamp.history.undo? = s.history.undo? := rfl
  rw [undo, undo, hsame]
  cases s.history.undo? with
  | none => rfl
  | some h => exact s.restore_clamp h .undone

theorem redo_clamp : s.clamp.redo = clampStep s.redo := by
  have hsame : s.clamp.history.redo? = s.history.redo? := rfl
  rw [redo, redo, hsame]
  cases s.history.redo? with
  | none => rfl
  | some h => exact s.restore_clamp h .redone

theorem perform_clamp (c : Command) : s.clamp.perform c = clampStep (s.perform c) := by
  cases c with
  | undo => exact s.undo_clamp
  | redo => exact s.redo_clamp
  | stop | discard | process | execute => rfl

theorem apply_clamp (rule : Option Rule) (text : Text) :
    s.clamp.apply rule text = clampStep (s.apply rule text) := by
  have hsame : s.clamp.document.effect rule text = s.document.effect rule text :=
    s.document.effect_clamp rule text
  rw [apply, apply, hsame]
  cases he : s.document.effect rule text with
  | error f => rfl
  | ok e =>
    cases e with
    | edit d v =>
      dsimp only
      rw [commit_clamp s (Document.valid_of_effect he)]
      rfl
    | command c =>
      dsimp only
      rw [perform_clamp]
      rfl
    | unchanged => rfl

theorem process_clamp (text : Text) : s.clamp.process text = clampStep (s.process text) := by
  rw [process, process]
  split
  · rfl
  · exact s.apply_clamp _ _

theorem hear_clamp (text : Text) (final : Bool) :
    s.clamp.hear text final = clampStep (s.hear text final) := by
  by_cases hs : s.Hears
  · have ht : s.clamp.Hears := hs
    cases hroute : s.rules.route (s.transcript text) with
    | process before => rw [hear_of_process hs hroute, hear_of_process ht hroute]; rfl
    | execute before => rw [hear_of_execute hs hroute, hear_of_execute ht hroute]; rfl
    | discard => rw [hear_of_discard hs hroute, hear_of_discard ht hroute]; rfl
    | rule r =>
      rw [hear_of_rule hs hroute, hear_of_rule ht hroute]
      exact s.endSegment.apply_clamp (some r) _
    | dictation =>
      cases final with
      | false =>
        rw [hear_interim_of_dictation hs hroute, hear_interim_of_dictation ht hroute]
        rfl
      | true =>
        cases ha : s.autoProcess with
        | true =>
          rw [hear_final_of_autoProcess hs hroute ha, hear_final_of_autoProcess ht hroute ha]
          exact process_clamp { s with pending := [] } _
        | false =>
          rw [hear_final_of_waits hs hroute ha, hear_final_of_waits ht hroute ha]
          rfl
  · rw [hear_of_not_hears hs, hear_of_not_hears (s := s.clamp) hs]
    rfl

theorem takeTranscription_clamp (text : Text) (execute : Bool) :
    s.clamp.takeTranscription text execute = clampStep (s.takeTranscription text execute) := by
  have hrules : s.clamp.rules = s.rules := rfl
  rw [takeTranscription, takeTranscription, hrules]
  split_ifs
  · rfl
  · exact s.process_clamp _

theorem execute_clamp (service : Request → Except Fault Text) (instruction : Text) :
    s.clamp.execute service instruction = clampStep (s.execute service instruction) := by
  have htag : Marker.tag s.clamp.document = Marker.tag s.document := s.document.tag_clamp
  have hline : s.clamp.document.cursorLine = s.document.cursorLine := s.document.cursorLine_clamp
  have hprompt : s.clamp.prompt = s.prompt := rfl
  rw [execute, execute, htag, hprompt]
  cases service ⟨s.prompt, Marker.tag s.document, instruction⟩ with
  | error f => rfl
  | ok reply =>
    dsimp only
    rw [hline, commit_clamp s (Marker.valid_recover _ _)]
    rfl

theorem replaceDocument_clamp (d : Document) (record : Bool) :
    s.clamp.replaceDocument d record = (s.replaceDocument d record).clamp :=
  (clamp_of_valid (s := s.replaceDocument d record) (Document.valid_ofParts _ _)).symm

/-- Clamping before an operation and clamping after it come to the same. -/
theorem operate_clamp (o : Operation) : s.clamp.operate o = clampStep (s.operate o) := by
  cases o with
  | hear text final => rw [operate, operate, hear_clamp]; rfl
  | process text => rw [operate, operate, process_clamp]; rfl
  | takeTranscription text execute => rw [operate, operate, takeTranscription_clamp]; rfl
  | execute service instruction => rw [operate, operate, execute_clamp]; rfl
  | undo => rw [operate, operate, undo_clamp]; rfl
  | redo => rw [operate, operate, redo_clamp]; rfl
  | stop | discard | beginSegment | listen | reload rules => rfl
  | replaceDocument d record => rw [operate, replaceDocument_clamp]; rfl

theorem valid_of_moves {o : Operation} {x : Outcome} (hx : (s.operate o).2 = some (.ok x))
    (hmoves : x.leavesDocument = false) :
    (s.operate o).1.document.selection.Valid (s.operate o).1.document.buffer := by
  have hshift := s.shifts_operate o (by rintro d rfl; cases hx)
  rw [Shifts, hx] at hshift
  generalize (s.operate o).1.document = e, (s.operate o).1.history = k at hshift
  cases hshift with
  | stay hr =>
    rw [hr x rfl] at hmoves
    cases hmoves
  | snapshot ho =>
    rw [ho] at hmoves
    cases hmoves
  | commit he v => exact he
  | undo hk he => exact he ▸ Document.valid_atEnd _
  | redo hk he => exact he ▸ Document.valid_atEnd _

end Steps

section Runs

variable {s : Session} (os : List Operation)

theorem run_clamp (s : Session) :
    s.clamp.run os = (s.run os).clamp ∧ s.clamp.answers os = s.answers os := by
  induction os generalizing s with
  | nil => exact ⟨rfl, rfl⟩
  | cons o os ih =>
    have hstep := s.operate_clamp o
    obtain ⟨hrun, hanswers⟩ := ih (s.operate o).1
    refine ⟨?_, ?_⟩
    · rw [run, List.foldl_cons, hstep]
      exact hrun
    · rw [answers, answers, hstep]
      exact congrArg _ hanswers

theorem valid_run_of_moves {x : Outcome} (hx : some (.ok x) ∈ s.answers os)
    (hmoves : x.leavesDocument = false) :
    (s.run os).document.selection.Valid (s.run os).document.buffer := by
  induction os generalizing s with
  | nil => cases hx
  | cons o os ih =>
    rw [answers, List.mem_cons] at hx
    obtain hx | hx := hx
    · exact valid_run os (s.valid_of_moves hx.symm hmoves)
    · exact ih hx

end Runs

/-- A selection that lies anywhere does no harm and makes no difference. Operations cut the buffer
at the clamped selection, between characters, and do what they do to the document with its selection
clamped, with a valid selection as a result. Sessions on the two documents give the same answers,
and are the same after the first edit, undo or redo. -/
theorem clamping_unseen (d : Document) (s : Session) :
    (d.clamped.Valid d.buffer ∧ d.Cuts d.before d.selected d.after ∧
      Marker.tag d = d.before ++ Marker.startMark ++ d.selected ++ Marker.stopMark ++ d.after ∧
      d.cursorLine = d.before.count '\n' ∧
      (∀ t, d.insert t = .ofParts (d.before ++ t ++ d.after) (.caret (d.before ++ t).size)) ∧
      ∀ u, d.dictation? u = (Document.atEnd d.before).dictation? u) ∧
    (Marker.tag d.clamp = Marker.tag d ∧ d.clamp.selected = d.selected ∧
      d.clamp.cursorLine = d.cursorLine ∧
      (∀ t, d.clamp.insert t = d.insert t ∧ (d.insert t).selection.Valid (d.insert t).buffer) ∧
      (∀ u, d.clamp.dictation? u = d.dictation? u) ∧
      (∀ r : Rule, r.replaceMatches d.clamp = r.replaceMatches d ∧
        ∀ e, r.replaceMatches d = .ok e → e.document.selection.Valid e.document.buffer) ∧
      ∀ rule u, d.clamp.effect rule u = d.effect rule u ∧
        ∀ e v, d.effect rule u = .ok (.edit e v) → e.selection.Valid e.buffer) ∧
    ∀ os, s.clamp.answers os = s.answers os ∧ s.clamp.run os = (s.run os).clamp ∧
      ∀ x, some (.ok x) ∈ s.answers os → x.leavesDocument = false → s.clamp.run os = s.run os := by
  refine ⟨⟨d.selection.valid_clampTo d.buffer, d.cuts, rfl, rfl, ?_, ?_⟩,
    ⟨d.tag_clamp, d.selected_clamp,
    d.cursorLine_clamp, fun t => ⟨d.insert_clamp t, d.valid_insert t⟩, d.dictation?_clamp, ?_, ?_⟩,
      ?_⟩
  · intro t
    rw [Document.insert, Text.size_append]
  · exact Document.dictation?_of_before (Document.before_atEnd d.before).symm
  · exact fun r => ⟨r.replaceMatches_clamp d, fun e he => r.valid_of_replaceMatches d he⟩
  · exact fun rule u => ⟨d.effect_clamp rule u, fun e v he => Document.valid_of_effect he⟩
  · intro os
    obtain ⟨hrun, hanswers⟩ := s.run_clamp os
    refine ⟨hanswers, hrun, ?_⟩
    intro x hx hmoves
    rw [hrun, clamp_of_valid (valid_run_of_moves os hx hmoves)]

theorem clamping_unseen_in_reverse :
    let d : Document := ⟨['a', 'é'], ⟨40, 2⟩⟩
    let s := start ⟨[], []⟩ d
    let os : List Operation := [.listen, .process ['+'], .undo]
    d.clamp ≠ d ∧ d.Cuts ['a'] ['é'] [] ∧
      some (.ok (.edited [⟨1, 3⟩] none)) ∈ s.answers os ∧
        (Outcome.edited [⟨1, 3⟩] none).leavesDocument = false ∧
      s.clamp.answers os = s.answers os ∧ s.clamp.run os = s.run os := by
  intro d s os
  obtain ⟨⟨-, hcuts, -⟩, -, hruns⟩ := clamping_unseen d s
  obtain ⟨hanswers, -, hsame⟩ := hruns os
  have hedited : some (.ok (.edited [⟨1, 3⟩] none)) ∈ s.answers os := by decide +kernel
  exact ⟨by decide, hcuts, hedited, rfl, hanswers, hsame _ hedited rfl⟩

end Session

end Dictation
