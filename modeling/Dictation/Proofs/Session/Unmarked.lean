import Dictation.Proofs.Character.Casing
import Dictation.Proofs.Rule.Stripping
import Dictation.Proofs.Session.Invariant
import Dictation.Proofs.Session.Pending
import Dictation.Proofs.Session.Setup

namespace Dictation

namespace Marker

theorem Unmarked.of_subset {s t : Text} (ht : Unmarked t) (h : s ⊆ t) : Unmarked s :=
  ⟨fun hs => ht.1 (h hs), fun hs => ht.2.1 (h hs), fun hs => ht.2.2 (h hs)⟩

theorem Unmarked.trim {t : Text} (ht : Unmarked t) : Unmarked t.trim :=
  ht.of_subset t.trim_sublist.subset

theorem unmarked_recover (t : Text) (line : Nat) : Unmarked (recover t line).document.buffer := by
  rw [buffer_recover]
  exact unmarked_ordinary t

end Marker

open Marker (Unmarked)

theorem Dictated.unmarked_setFirstLetter {t : Text} (ht : Unmarked t) (capital : Bool) :
    Unmarked (setFirstLetter capital t) := by
  induction t with
  | nil => exact ht
  | cons c t ih =>
    obtain ⟨hc, ht⟩ := Marker.unmarked_append.1 (show Unmarked ([c] ++ t) from ht)
    rw [setFirstLetter]
    split_ifs
    · exact Marker.unmarked_append.2 ⟨Marker.unmarked_upper hc, ht⟩
    · exact Marker.unmarked_append.2 ⟨Marker.unmarked_lower hc, ht⟩
    · exact Marker.unmarked_append.2 ⟨hc, ih ht⟩

namespace Document

variable {d e : Document} {t u : Text}

theorem unmarked_buffer_iff :
    Unmarked d.buffer ↔ Unmarked d.before ∧ Unmarked d.selected ∧ Unmarked d.after := by
  conv_lhs => rw [d.buffer_eq_append]
  exact Marker.unmarked_append_append

theorem unmarked_insert (hd : Unmarked d.buffer) (ht : Unmarked t) :
    Unmarked (d.insert t).buffer := by
  obtain ⟨hbefore, -, hafter⟩ := unmarked_buffer_iff.1 hd
  exact Marker.unmarked_append_append.2 ⟨hbefore, ht, hafter⟩

theorem unmarked_dictation? (hu : Unmarked u) (h : d.dictation? u = some t) : Unmarked t := by
  rw [dictation?] at h
  split at h
  · cases h
  · obtain rfl := Option.some.inj h
    refine Marker.unmarked_append.2 ⟨?_, Dictated.unmarked_setFirstLetter hu.trim _⟩
    split <;> decide

end Document

/-- A text with one start marker and, after it, one end marker, and nothing else reserved: a buffer
with both put in. -/
def Marker.Tagged (tagged buffer : Text) : Prop :=
  ∃ a b c, Unmarked a ∧ Unmarked b ∧ Unmarked c ∧ buffer = a ++ b ++ c ∧
    tagged = a ++ startMark ++ b ++ stopMark ++ c

theorem Marker.tagged_tag {d : Document} (hd : Unmarked d.buffer) : Tagged (tag d) d.buffer := by
  obtain ⟨hbefore, hselected, hafter⟩ := Document.unmarked_buffer_iff.1 hd
  exact ⟨d.before, d.selected, d.after, hbefore, hselected, hafter, d.buffer_eq_append, rfl⟩

/-- The text that a rule puts in, if it does, holds no marker. -/
def Rule.SubstitutesUnmarked (r : Rule) : Prop := ∀ t, r.action = .substitution t → Unmarked t

def RuleSet.SubstitutesUnmarked (set : RuleSet) : Prop := ∀ r ∈ set.rules, r.SubstitutesUnmarked

theorem Document.unmarked_of_effect {d e : Document} {rule : Option Rule} {u : Text}
    {v : Option Marker.Violation}
    (hd : Unmarked d.buffer) (hr : ∀ r ∈ rule, r.SubstitutesUnmarked) (hu : Unmarked u)
    (h : d.effect rule u = .ok (.edit e v)) : Unmarked e.buffer := by
  cases rule with
  | none =>
    cases ht : d.dictation? u with
    | none => simp [effect, ht] at h
    | some t =>
      simp only [effect, ht, Except.ok.injEq, Effect.edit.injEq] at h
      exact h.1 ▸ unmarked_insert hd (unmarked_dictation? hu ht)
  | some r =>
    simp only [effect, Rule.effect] at h
    cases ha : r.action with
    | command c => simp [ha] at h
    | substitution t =>
      simp only [ha, Except.ok.injEq, Effect.edit.injEq] at h
      exact h.1 ▸ unmarked_insert hd (hr r rfl t ha)
    | replacement pattern template =>
      cases ho : r.operation with
      | error f => simp [ha, Rule.replaceMatches, ho, Except.map] at h
      | ok o =>
        simp only [ha, Rule.replaceMatches, ho, Except.map, Except.ok.injEq, Effect.edit.injEq] at h
        exact h.1 ▸ Marker.unmarked_recover _ _

namespace Session

/-- Nothing reserved in the document, in its history, in what waits, or in what a rule may put in.
-/
structure Clean (s : Session) : Prop where
  buffer : Unmarked s.document.buffer
  history : s.history.Sound
  pending : Unmarked s.pending
  rules : s.rules.SubstitutesUnmarked

/-- An operation whose texts hold nothing reserved. Patterns, templates and the replies of a service
may. -/
def Operation.BringsUnmarked : Operation → Prop
  | .hear text _ | .process text | .takeTranscription text _ => Unmarked text
  | .replaceDocument d _ => Unmarked d.buffer
  | .reload rules => (RuleSet.read rules).SubstitutesUnmarked
  | _ => True

variable {s : Session} {text : Text} {rule : Option Rule}

theorem unmarked_buffer_perform (hb : Unmarked s.document.buffer) (hh : s.history.Sound)
    (c : Command) : Unmarked (s.perform c).1.document.buffer := by
  have hrestored {k : History} (hk : k.Sound) : Unmarked (k.current?.getD []) := by
    obtain ⟨t, ht⟩ := hk.exists_current?
    rw [ht]
    exact hk.unmarked_of_current? ht
  cases c with
  | undo =>
    rw [perform, undo]
    cases hu : s.history.undo? with
    | none => exact hb
    | some k => exact hrestored (History.sound_undo? hh hu)
  | redo =>
    rw [perform, redo]
    cases hr : s.history.redo? with
    | none => exact hb
    | some k => exact hrestored (History.sound_redo? hh hr)
  | stop | discard | process | execute => exact hb

theorem unmarked_buffer_apply (hb : Unmarked s.document.buffer) (hh : s.history.Sound)
    (hr : ∀ r ∈ rule, r.SubstitutesUnmarked) (ht : Unmarked text) :
    Unmarked (s.apply rule text).1.document.buffer := by
  rw [apply]
  cases he : s.document.effect rule text with
  | error f => exact hb
  | ok e =>
    cases e with
    | edit d v => exact Document.unmarked_of_effect hb hr ht he
    | command c => exact unmarked_buffer_perform hb hh c
    | unchanged => exact hb

theorem unmarked_buffer_process (hb : Unmarked s.document.buffer) (hh : s.history.Sound)
    (hr : s.rules.SubstitutesUnmarked) (ht : Unmarked text) :
    Unmarked (s.process text).1.document.buffer := by
  rw [process]
  split
  · exact hb
  · exact unmarked_buffer_apply hb hh (fun r h => hr r (RuleSet.of_whole?_eq_some h).1) ht.trim

theorem unmarked_transcript (hp : Unmarked s.pending) (ht : Unmarked text) :
    Unmarked (s.transcript text) := by
  rw [transcript]
  split_ifs
  · exact ht.trim
  · exact hp
  · exact Marker.unmarked_append.2 ⟨hp, Marker.unmarked_cons.2 ⟨by decide, ht.trim⟩⟩

theorem Clean.unmarked_buffer_hear (hs : s.Clean) (ht : Unmarked text) (final : Bool) :
    Unmarked (s.hear text final).1.document.buffer := by
  have heard := unmarked_transcript hs.pending ht
  by_cases hopen : s.Hears
  · cases hr : s.rules.route (s.transcript text) with
    | process before => exact hear_of_process hopen hr ▸ hs.buffer
    | execute before => exact hear_of_execute hopen hr ▸ hs.buffer
    | discard => exact hear_of_discard hopen hr ▸ hs.buffer
    | rule r =>
      rw [hear_of_rule hopen hr]
      have hmem := (RuleSet.of_whole?_eq_some (RuleSet.of_route_rule hr).1).1
      have hrule : ∀ r' ∈ some r, r'.SubstitutesUnmarked := by
        rintro _ ⟨⟩
        exact hs.rules r hmem
      exact unmarked_buffer_apply (s := s.endSegment) hs.buffer hs.history hrule heard.trim
    | dictation =>
      cases final with
      | false => exact hear_interim_of_dictation hopen hr ▸ hs.buffer
      | true =>
        by_cases ha : s.autoProcess = true
        · rw [hear_final_of_autoProcess hopen hr ha]
          exact unmarked_buffer_process (s := { s with pending := [] }) hs.buffer hs.history
            hs.rules heard
        · exact hear_final_of_waits hopen hr (Bool.eq_false_iff.2 ha) ▸ hs.buffer
  · exact hear_of_not_hears hopen ▸ hs.buffer

section Operate

variable {o : Operation}

theorem Clean.unmarked_buffer_operate (hs : s.Clean) (ho : o.BringsUnmarked) :
    Unmarked (s.operate o).1.document.buffer := by
  cases o with
  | hear text final => exact hs.unmarked_buffer_hear ho final
  | process text => exact unmarked_buffer_process hs.buffer hs.history hs.rules ho
  | takeTranscription text execute =>
    rw [operate, takeTranscription]
    split
    · exact hs.buffer
    · have hstripped := ho.of_subset (s.rules.stripTail_text_sublist text).subset
      exact unmarked_buffer_process hs.buffer hs.history hs.rules hstripped
  | execute service instruction =>
    rw [operate, execute]
    split
    · exact hs.buffer
    · exact Marker.unmarked_recover _ _
  | undo => exact unmarked_buffer_perform hs.buffer hs.history .undo
  | redo => exact unmarked_buffer_perform hs.buffer hs.history .redo
  | stop | discard | beginSegment | listen | reload rules => exact hs.buffer
  | replaceDocument d record => exact ho

theorem Onward.unmarked_pending {t : Session} (h : Onward s t) (hs : Unmarked s.pending) :
    Unmarked t.pending := by
  rcases h.pending with h | h
  · rwa [h]
  · rw [h]
    exact Marker.unmarked_nil

theorem Clean.unmarked_pending_operate (hs : s.Clean) (ho : o.BringsUnmarked) :
    Unmarked (s.operate o).1.pending := by
  cases o with
  | hear text final =>
    rcases s.onward_hear text final with h | h
    · exact h.unmarked_pending hs.pending
    · exact (congrArg Session.pending h) ▸ unmarked_transcript hs.pending ho
  | process text => exact (s.onward_process text).unmarked_pending hs.pending
  | takeTranscription text execute =>
    exact (s.onward_takeTranscription text execute).unmarked_pending hs.pending
  | execute service instruction =>
    exact (s.onward_execute service instruction).unmarked_pending hs.pending
  | undo => exact s.onward_undo.unmarked_pending hs.pending
  | redo => exact s.onward_redo.unmarked_pending hs.pending
  | discard => exact Marker.unmarked_nil
  | stop | beginSegment | listen | reload rules | replaceDocument d record => exact hs.pending

theorem Clean.rules_operate (hs : s.Clean) (ho : o.BringsUnmarked) :
    (s.operate o).1.rules.SubstitutesUnmarked := by
  by_cases h : ∃ rules, o = .reload rules
  · obtain ⟨rules, rfl⟩ := h
    exact ho
  · have hrules : (s.operate o).1.rules = s.rules :=
      congrArg Prod.fst (setup_operate (not_exists.1 h))
    exact hrules ▸ hs.rules

theorem Clean.operate (hs : s.Clean) (ho : o.BringsUnmarked) : (s.operate o).1.Clean where
  buffer := hs.unmarked_buffer_operate ho
  history := sound_operate hs.history o
  pending := hs.unmarked_pending_operate ho
  rules := hs.rules_operate ho

theorem Clean.run {os : List Operation} (hs : s.Clean) (hos : ∀ o ∈ os, o.BringsUnmarked) :
    (s.run os).Clean := by
  induction os generalizing s with
  | nil => exact hs
  | cons o os ih =>
    exact ih (hs.operate (hos o List.mem_cons_self)) fun o' h => hos o' (List.mem_cons_of_mem o h)

end Operate

theorem Started.clean (hs : Started s) (hd : Unmarked s.document.buffer)
    (hr : s.rules.SubstitutesUnmarked) : s.Clean where
  buffer := hd
  history := hs.sound
  pending := hs.pending ▸ Marker.unmarked_nil
  rules := hr

/-- As long as only patterns, templates and replies may hold markers and caret symbols, neither the
document nor its history ever does. So what an operation is run on and what a service is asked has
one marker of each kind. -/
theorem unmarked_of_run (hs : Started s) (hd : Unmarked s.document.buffer)
    (hr : s.rules.SubstitutesUnmarked) {os : List Operation} (hos : ∀ o ∈ os, o.BringsUnmarked) :
    let t := s.run os
    Unmarked t.document.buffer ∧ (∀ e ∈ t.history.entries, Unmarked e) ∧
      (∃ tagged, Marker.Tagged tagged t.document.buffer ∧
        (∀ o : Dictation.Operation,
          t.document.replaceMatches o = Marker.recover (o.run tagged) t.document.cursorLine) ∧
        ∀ service service' instruction,
          service ⟨t.prompt, tagged, instruction⟩ = service' ⟨t.prompt, tagged, instruction⟩ →
            t.execute service instruction = t.execute service' instruction) ∧
      (InStep t.document t.history → t.history.current? = some t.document.buffer) ∧
      ((∀ d, .replaceDocument d false ∉ os) → t.history.current? = some t.document.buffer) := by
  intro t
  have ht : t.Clean := (hs.clean hd hr).run hos
  have hcurrent (hstep : InStep t.document t.history) :
      t.history.current? = some t.document.buffer := by
    rwa [InStep, Document.snapshot, Marker.strip_of_unmarked ht.buffer] at hstep
  refine ⟨ht.buffer, ht.history.unmarked,
    ⟨Marker.tag t.document, Marker.tagged_tag ht.buffer, fun _ => rfl, ?_⟩, hcurrent, ?_⟩
  · intro service service' instruction h
    rw [execute, execute, h]
  · intro hrecord
    exact hcurrent (inStep_run os hs.sound hs.inStep hrecord)

theorem unmarked_of_run_among_markers :
    let r : Rule := ⟨"(?-i)x".toList, .replacement ['🅰'] "$&$&◉".toList, 1⟩
    let s := start ⟨[r], []⟩ (.atEnd ['k'])
    let os : List Operation := [.process ['x'], .execute (fun _ => .ok "🅱a◉🅰".toList) [],
      .replaceDocument (.atEnd ['b']) false, .hear ['c'] true]
    let t := s.run os
    (Unmarked s.document.buffer ∧ s.rules.SubstitutesUnmarked ∧ ∀ o ∈ os, o.BringsUnmarked) ∧
      (s.run (os.take 2)).document.buffer = ['a'] ∧ t.document.buffer = "b c".toList ∧
      Unmarked t.document.buffer ∧ (∀ e ∈ t.history.entries, Unmarked e) ∧
      InStep t.document t.history ∧ t.history.current? = some t.document.buffer := by
  intro r s os t
  have hd : Unmarked s.document.buffer := by decide
  have hr : s.rules.SubstitutesUnmarked := by
    intro r' hr' u hu
    obtain rfl := List.mem_singleton.1 hr'
    cases hu
  have hos : ∀ o ∈ os, o.BringsUnmarked := by
    simp only [os, List.forall_mem_cons]
    have hletter : Unmarked ['x'] ∧ Unmarked ['b'] ∧ Unmarked ['c'] := by decide
    exact ⟨hletter.1, trivial, hletter.2.1, hletter.2.2, nofun⟩
  obtain ⟨hbuffer, hentries, -, hcurrent, -⟩ := unmarked_of_run (.start _ _) hd hr hos
  have hstep : InStep t.document t.history := by
    rw [InStep]
    decide +kernel
  exact ⟨⟨hd, hr, hos⟩, by decide +kernel, by decide +kernel, hbuffer, hentries, hstep,
    hcurrent hstep⟩

end Session

end Dictation
