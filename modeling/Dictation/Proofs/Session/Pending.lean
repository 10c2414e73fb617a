import Dictation.Proofs.Rule.Ending
import Dictation.Proofs.Session.Segment

namespace Dictation

namespace Text

/-- The texts that are not empty, with a space between each two. -/
def joined (ts : List Text) : Text := [' '].intercalate (ts.filter (!·.isEmpty))

def spaced (a b : Text) : Text := if a.isEmpty then b else if b.isEmpty then a else a ++ ' ' :: b

variable {a b : Text}

theorem spaced_nil (a : Text) : spaced a [] = a := by
  cases a <;> rfl

theorem spaced_of_ne_nil (ha : a ≠ []) (hb : b ≠ []) : spaced a b = a ++ ' ' :: b := by
  simp [spaced, ha, hb]

theorem spaced_assoc (a b c : Text) : spaced (spaced a b) c = spaced a (spaced b c) := by
  cases a <;> cases b <;> cases c <;> simp [spaced]

theorem joined_cons (a : Text) (ts : List Text) : joined (a :: ts) = spaced a (joined ts) := by
  by_cases ha : a = []
  · rw [ha]
    rfl
  have hcons : (a :: ts).filter (!·.isEmpty) = a :: ts.filter (!·.isEmpty) := by simp [ha]
  rw [joined, joined, hcons]
  cases hts : ts.filter (!·.isEmpty) with
  | nil => rw [List.intercalate_singleton, List.intercalate_nil, spaced_nil]
  | cons b bs =>
    have hb : b ≠ [] := by
      have hmem : b ∈ ts.filter (!·.isEmpty) := hts ▸ List.mem_cons_self
      simpa using (List.mem_filter.1 hmem).2
    have hne : [' '].intercalate (b :: bs) ≠ [] := by
      cases bs <;> simp [hb]
    rw [List.intercalate_cons_cons, spaced_of_ne_nil ha hne, List.append_assoc]
    rfl

theorem joined_singleton (a : Text) : joined [a] = a := (joined_cons a []).trans (spaced_nil a)

theorem joined_pair (a b : Text) : joined [a, b] = spaced a b := by
  rw [joined_cons, joined_singleton]

theorem joined_spaced (a b : Text) (ts : List Text) :
    joined (spaced a b :: ts) = joined (a :: b :: ts) := by
  rw [joined_cons, joined_cons, joined_cons, spaced_assoc]

theorem trim_spaced (ha : a.trim = a) (hb : b.trim = b) : (spaced a b).trim = spaced a b := by
  by_cases ha' : a = []
  · rwa [ha']
  by_cases hb' : b = []
  · rwa [hb', spaced_nil]
  rw [spaced_of_ne_nil ha' hb']
  exact trim_append_cons ha hb ha' hb' ' '

end Text

/-- Every trigger at the end of an utterance that takes part in matching is a pattern on its own,
not only between the parentheses that are put around it. -/
def RuleSet.TriggersStandAlone (set : RuleSet) : Prop :=
  ∀ r ∈ set.rules, ∀ c : Command, r.command? = some c → c.isTail = true → r.isMatchable = true →
    (Trigger.pattern? r.trigger).isSome = true

theorem RuleSet.isTail_of_route_rule {set : RuleSet} {u : Text} {r : Rule} {c : Command}
    (hset : set.TriggersStandAlone) (hu : u.trim = u) (hr : set.route u = .rule r)
    (hc : r.command? = some c) :
    c.isTail = false := by
  rw [Bool.eq_false_iff]
  intro hct
  obtain ⟨hmem, hmatches⟩ := of_whole?_eq_some (of_route_rule hr).1
  obtain ⟨p, hp⟩ := Option.isSome_iff_exists.1
    (hset r hmem c hc hct (Rule.isMatchable_of_matchesWhole hmatches))
  rw [Rule.isTail_of_route hp hu hr hc] at hct
  cases hct

def Outcome.handedOver? : Outcome → Option (Command × Text)
  | process t => some (.process, t)
  | execute t => some (.execute, t)
  | _ => none

namespace Session

variable {s : Session} {text : Text}

theorem transcript_eq_spaced (s : Session) (text : Text) :
    s.transcript text = .spaced s.pending text.trim := rfl

section Trimmed

theorem trim_transcript (hs : s.pending.trim = s.pending) (text : Text) :
    (s.transcript text).trim = s.transcript text := Text.trim_spaced hs text.trim_trim

theorem Onward.trim_pending {t : Session} (h : Onward s t) (hs : s.pending.trim = s.pending) :
    t.pending.trim = t.pending := by
  obtain hp | hp := h.pending
  · rw [hp, hs]
  · rw [hp]
    rfl

theorem trim_pending_operate (hs : s.pending.trim = s.pending) (o : Operation) :
    (s.operate o).1.pending.trim = (s.operate o).1.pending := by
  cases o with
  | hear text final =>
    rcases s.onward_hear text final with h | h
    · exact h.trim_pending hs
    · rw [operate, Prod.map_fst, id, h]
      exact trim_transcript hs text
  | process text => exact (s.onward_process text).trim_pending hs
  | takeTranscription text execute =>
    exact (s.onward_takeTranscription text execute).trim_pending hs
  | execute service instruction => exact (s.onward_execute service instruction).trim_pending hs
  | undo => exact s.onward_undo.trim_pending hs
  | redo => exact s.onward_redo.trim_pending hs
  | discard => rfl
  | stop | beginSegment | listen | reload rules | replaceDocument d record => exact hs

theorem Started.pending (hs : Started s) : s.pending = [] := by
  induction hs with
  | start => rfl
  | ofSettings settings rules stored hs =>
    obtain ⟨-, rfl⟩ := Settings.start?_eq_some_iff.1 hs
    rfl
  | withCapacity hs capacity ht ih =>
    obtain ⟨h, -, rfl⟩ := withCapacity?_eq_some_iff.1 ht
    exact ih
  | withAutoProcess _ _ ih | withPrompt _ _ ih => exact ih

theorem trim_pending_run {os : List Operation} (hs : s.pending.trim = s.pending) :
    (s.run os).pending.trim = (s.run os).pending := by
  induction os generalizing s with
  | nil => exact hs
  | cons o os ih => exact ih (trim_pending_operate hs o)

theorem Reachable.trim_pending (hs : Reachable s) : s.pending.trim = s.pending := by
  obtain ⟨s₀, os, hs₀, rfl⟩ := hs
  refine trim_pending_run ?_
  rw [hs₀.pending]
  rfl

end Trimmed

/-- Each of the texts, heard in full after those before it, leads to a transcript on the way to
dictation. -/
def Dictates (s : Session) : List Text → Prop
  | [] => True
  | t :: ts => s.rules.route (s.transcript t) = .dictation ∧ (s.hear t true).1.Dictates ts

theorem run_hears (hs : s.Hears) (ha : s.autoProcess = false) {texts : List Text}
    (hd : s.Dictates texts) :
    s.run (texts.map (.hear · true)) =
      { s with pending := .joined (s.pending :: texts.map Text.trim) } := by
  induction texts generalizing s with
  | nil =>
    rw [List.map_nil, List.map_nil, Text.joined_singleton]
    rfl
  | cons t ts ih =>
    obtain ⟨hr, hd⟩ := hd
    have hhear := congrArg Prod.fst (hear_final_of_waits hs hr ha)
    rw [hhear] at hd
    have hrest := ih (s := { s with pending := s.transcript t }) hs ha hd
    rw [List.map_cons, List.map_cons, ← Text.joined_spaced]
    rw [run, List.foldl_cons, operate, Prod.map_fst, id, hhear]
    exact hrest

section HandOver

variable {o : Outcome} {c : Command} {t : Text}

theorem of_effect_eq_command {d : Document} {rule : Option Rule}
    (h : d.effect rule text = .ok (.command c)) : ∃ r, rule = some r ∧ r.command? = some c := by
  cases rule with
  | none =>
    rw [Document.effect] at h
    split at h <;> cases h
  | some r =>
    refine ⟨r, rfl, ?_⟩
    rw [Document.effect, Rule.effect] at h
    rw [Rule.command?]
    cases hr : r.action with
    | command c' =>
      rw [hr] at h
      cases h
      rfl
    | substitution u =>
      rw [hr] at h
      cases h
    | replacement pattern template =>
      rw [hr] at h
      dsimp only at h
      cases ho : r.replaceMatches d with
      | error f =>
        rw [ho] at h
        cases h
      | ok result =>
        rw [ho] at h
        cases h

theorem isTail_of_handedOver (ho : o.handedOver? = some (c, t)) : c.isTail = true := by
  cases o <;> cases ho <;> rfl

theorem eq_of_perform_handedOver {c' : Command} (h : (s.perform c').2.handedOver? = some (c, t)) :
    c' = c := by
  cases c' with
  | process | execute =>
    cases h
    rfl
  | stop | discard => cases h
  | undo =>
    rw [perform, undo] at h
    cases hu : s.history.undo? <;> rw [hu] at h <;> cases h
  | redo =>
    rw [perform, redo] at h
    cases hr : s.history.redo? <;> rw [hr] at h <;> cases h

theorem of_apply_handedOver {rule : Option Rule} (h : (s.apply rule text).2 = .ok o)
    (ho : o.handedOver? = some (c, t)) : ∃ r, rule = some r ∧ r.command? = some c := by
  rw [apply] at h
  cases he : s.document.effect rule text with
  | error f =>
    rw [he] at h
    cases h
  | ok e =>
    rw [he] at h
    cases e with
    | edit d v =>
      cases h
      cases ho
    | unchanged =>
      cases h
      cases ho
    | command c' =>
      cases h
      obtain rfl := eq_of_perform_handedOver ho
      exact of_effect_eq_command he

theorem of_process_handedOver (h : (s.process text).2 = .ok o) (ho : o.handedOver? = some (c, t)) :
    ∃ r, s.rules.selected? text = some r ∧ r.command? = some c := by
  rw [process] at h
  rw [RuleSet.selected?]
  split at h
  · cases h
    cases ho
  · next hne =>
    rw [if_neg hne]
    exact of_apply_handedOver h ho

/-- The text before the trigger of a command that ends the transcript. -/
def Precedes (s : Session) (text : Text) (c : Command) (t : Text) : Prop :=
  ∃ m, s.rules.tail? c (s.transcript text) = some m ∧ m.rule ∈ s.rules.rules ∧
    m.rule.command? = some c ∧
    m.rule.beforeTail? (s.transcript text) = some m.before ∧ m.before <+: s.transcript text ∧
      t = m.before.trim

theorem precedes_of_tail? {m : TailMatch} (hm : s.rules.tail? c (s.transcript text) = some m) :
    s.Precedes text c m.before.trim := by
  obtain ⟨hmem, hc, hbefore⟩ := RuleSet.of_tail?_eq_some hm
  exact ⟨m, hm, hmem, hc, hbefore, Rule.isPrefix_of_beforeTail? hbefore, rfl⟩

theorem precedes_of_handedOver (hset : s.rules.TriggersStandAlone) (hp : s.pending.trim = s.pending)
    {final : Bool} (h : (s.hear text final).2 = .ok o) (ho : o.handedOver? = some (c, t)) :
    s.Precedes text c t := by
  by_cases hs : s.Hears
  · cases hr : s.rules.route (s.transcript text) with
    | process before =>
      rw [hear_of_process hs hr] at h
      cases h
      cases ho
      obtain ⟨m, hm, rfl⟩ := RuleSet.tail?_of_route_process hr
      exact precedes_of_tail? hm
    | execute before =>
      rw [hear_of_execute hs hr] at h
      cases h
      cases ho
      obtain ⟨m, hm, rfl⟩ := RuleSet.tail?_of_route_execute hr
      exact precedes_of_tail? hm
    | discard =>
      rw [hear_of_discard hs hr] at h
      cases h
      cases ho
    | rule r =>
      rw [hear_of_rule hs hr] at h
      obtain ⟨_, hrule, hc⟩ := of_apply_handedOver h ho
      obtain rfl := Option.some.inj hrule
      -- A rule that hands text over never comes here: its trigger would have
      -- ended the transcript before.
      have htail := RuleSet.isTail_of_route_rule hset (trim_transcript hp text) hr hc
      rw [isTail_of_handedOver ho] at htail
      cases htail
    | dictation =>
      cases final with
      | false =>
        rw [hear_interim_of_dictation hs hr] at h
        cases h
        cases ho
      | true =>
        by_cases ha : s.autoProcess = true
        · rw [hear_final_of_autoProcess hs hr ha] at h
          obtain ⟨r, hselected, -⟩ := of_process_handedOver h ho
          rw [RuleSet.selected?_of_route_dictation hr] at hselected
          cases hselected
        · rw [hear_final_of_waits hs hr (Bool.eq_false_iff.2 ha)] at h
          cases h
          cases ho
  · rw [hear_of_not_hears hs] at h
    cases h
    cases ho

end HandOver

/-- Final results on the way to dictation wait in order, interim ones change nothing, and a process
or execute command gets all of the transcript that stands before its trigger; a rule with such a
command, or with a discard, never fires on a whole utterance, where the text would be gone. -/
theorem dictated_text_kept (s : Session) :
    (s.Hears → s.autoProcess = false → ∀ texts, s.Dictates texts →
      s.run (texts.map (.hear · true)) =
        { s with pending := .joined (s.pending :: texts.map Text.trim) }) ∧
    (∀ text, s.rules.route (s.transcript text) = .dictation → (s.hear text false).1 = s) ∧
    (s.Reachable → s.rules.TriggersStandAlone → ∀ text,
      s.transcript text = .joined [s.pending, text.trim] ∧
      (∀ final t, (s.hear text final).2 = .ok (.process t) → s.Precedes text .process t) ∧
      (∀ final t, (s.hear text final).2 = .ok (.execute t) → s.Precedes text .execute t) ∧
      ∀ r, s.rules.route (s.transcript text) = .rule r → ∀ c, r.command? = some c →
        c.isTail = false) := by
  refine ⟨fun hs ha texts hd => run_hears hs ha hd, ?_, ?_⟩
  · intro text hr
    by_cases hs : s.Hears
    · rw [hear_interim_of_dictation hs hr]
    · rw [hear_of_not_hears hs]
  · intro hs hset text
    have hp := hs.trim_pending
    refine ⟨?_, ?_, ?_, ?_⟩
    · rw [Text.joined_pair, transcript_eq_spaced]
    · intro final t h
      exact precedes_of_handedOver hset hp h rfl
    · intro final t h
      exact precedes_of_handedOver hset hp h rfl
    · intro r hr c hc
      exact RuleSet.isTail_of_route_rule hset (trim_transcript hp text) hr hc

theorem dictated_text_kept_until_trigger :
    let process : Rule := ⟨"(?-i)x|y".toList, .command .process, 1⟩
    let execute : Rule := ⟨"(?-i)z".toList, .command .execute, 2⟩
    let undo : Rule := ⟨"(?-i)(.* )?u".toList, .command .undo, 3⟩
    let s := ((start ⟨[process, execute, undo], []⟩ .empty).withAutoProcess false).run
      [.hear ['+'] true]
    let t := s.run ([[' '], [' ', '-']].map (.hear · true))
    (s.Hears ∧ s.autoProcess = false ∧ s.Dictates [[' '], [' ', '-']] ∧
      t = { s with pending := ['+', ' ', '-'] }) ∧
    (t.rules.route (t.transcript ['=']) = .dictation ∧ (t.hear ['='] false).1 = t) ∧
    (t.Reachable ∧ t.rules.TriggersStandAlone) ∧
    ((t.hear ['=', ' ', 'x'] false).2 = .ok (.process ['+', ' ', '-', ' ', '=']) ∧
      t.Precedes ['=', ' ', 'x'] .process ['+', ' ', '-', ' ', '=']) ∧
    ((t.hear ['z'] true).2 = .ok (.execute ['+', ' ', '-']) ∧
      t.Precedes ['z'] .execute ['+', ' ', '-']) ∧
    (t.rules.route (t.transcript ['u']) = .rule undo ∧ undo.command? = some .undo ∧
      Command.undo.isTail = false) := by
  intro process execute undo s t
  have hs : s.Hears := ⟨by decide, by decide⟩
  have ha : s.autoProcess = false := by decide
  have hd : s.Dictates [[' '], [' ', '-']] := ⟨by decide, by decide, trivial⟩
  have hpending : Text.joined (s.pending :: [[' '], [' ', '-']].map Text.trim) =
      ['+', ' ', '-'] := by decide
  have ht : t = { s with pending := ['+', ' ', '-'] } :=
    hpending ▸ (dictated_text_kept s).1 hs ha _ hd
  have hr : t.rules.route (t.transcript ['=']) = .dictation := by decide
  have hreach : t.Reachable :=
    ((Started.withAutoProcess (.start ⟨[process, execute, undo], []⟩ .empty) false).reachable.run
      _).run _
  have hset : t.rules.TriggersStandAlone := by
    have hrules : t.rules.rules = [process, execute, undo] := by decide
    have hpatterns : ∀ r ∈ [process, execute, undo],
        (Trigger.pattern? r.trigger).isSome = true := by decide
    intro r hr _ _ _ _
    exact hpatterns r (hrules ▸ hr)
  have hkept := (dictated_text_kept t).2.2 hreach hset
  have hp : (t.hear ['=', ' ', 'x'] false).2 = .ok (.process ['+', ' ', '-', ' ', '=']) := by decide
  have he : (t.hear ['z'] true).2 = .ok (.execute ['+', ' ', '-']) := by decide
  have hu : t.rules.route (t.transcript ['u']) = .rule undo := by decide
  exact ⟨⟨hs, ha, hd, ht⟩, ⟨hr, (dictated_text_kept t).2.1 _ hr⟩, ⟨hreach, hset⟩,
    ⟨hp, (hkept _).2.1 _ _ hp⟩, ⟨he, (hkept _).2.2.1 _ _ he⟩, hu, rfl, (hkept _).2.2.2 _ hu _ rfl⟩

end Session

end Dictation
