import Dictation.Settings
import Dictation.Proofs.History.Sound
import Dictation.Proofs.Marker.Recovery

namespace Dictation

namespace Settings

variable {settings : Settings} {rules : Text} {stored : Option Text} {s : Session}

/-- The session under some settings if there can be a history of their capacity. -/
def started (settings : Settings) (rules : Text) (stored : Option Text) : Session :=
  let session := Session.start (.read rules) (stored.elim Document.empty Marker.unpark)
  { session with
    history := (History.empty (max settings.capacity 1)).push session.document.snapshot
    autoProcess := settings.autoProcess
    prompt := settings.prompt }

theorem start?_of_le (h : settings.capacity ≤ History.maxCapacity) :
    settings.start? rules stored = some (settings.started rules stored) := by
  rw [start?, Session.withCapacity?, History.ofCapacity?_of_le h]
  rfl

theorem start?_eq_none_iff :
    settings.start? rules stored = none ↔ History.maxCapacity < settings.capacity := by
  rw [start?, Option.map_eq_none_iff, Session.withCapacity?, Option.map_eq_none_iff,
    History.ofCapacity?_eq_none_iff]

theorem start?_eq_some_iff : settings.start? rules stored = some s ↔
    settings.capacity ≤ History.maxCapacity ∧ s = settings.started rules stored := by
  by_cases h : settings.capacity ≤ History.maxCapacity
  · rw [start?_of_le h, Option.some.injEq, eq_comm]
    exact (and_iff_right h).symm
  · rw [start?_eq_none_iff.2 (Nat.not_le.1 h)]
    exact ⟨nofun, fun hs => absurd hs.1 h⟩

end Settings

namespace Session

inductive Operation where
  | hear (text : Text) (final : Bool)
  | process (text : Text)
  | takeTranscription (text : Text) (execute : Bool)
  | execute (service : Request → Except Fault Text) (instruction : Text)
  | undo
  | redo
  | stop
  | discard
  | beginSegment
  | listen
  | reload (rules : Text)
  | replaceDocument (d : Document) (record : Bool)

def operate (s : Session) : Operation → Session × Option (Except Fault Outcome)
  | .hear text final => (s.hear text final).map id some
  | .process text => (s.process text).map id some
  | .takeTranscription text execute => (s.takeTranscription text execute).map id some
  | .execute service instruction => (s.execute service instruction).map id some
  | .undo => s.undo.map id (some ∘ .ok)
  | .redo => s.redo.map id (some ∘ .ok)
  | .stop => s.stop.map id (some ∘ .ok)
  | .discard => s.discard.map id (some ∘ .ok)
  | .beginSegment => (s.beginSegment, none)
  | .listen => (s.listen, none)
  | .reload rules => (s.reload rules, none)
  | .replaceDocument d record => (s.replaceDocument d record, none)

def run (s : Session) (os : List Operation) : Session := os.foldl (fun s o => (s.operate o).1) s

theorem run_append (s : Session) (os os' : List Operation) :
    s.run (os ++ os') = (s.run os).run os' := List.foldl_append

/-- A session as it starts, on any document or under any settings, and set up in any way. -/
inductive Started : Session → Prop
  | start (rules : RuleSet) (d : Document) : Started (.start rules d)
  | ofSettings (settings : Settings) (rules : Text) (stored : Option Text) {s : Session}
    (hs : settings.start? rules stored = some s) : Started s
  | withCapacity {s t : Session} (hs : Started s) (capacity : Nat)
    (ht : s.withCapacity? capacity = some t) : Started t
  | withAutoProcess {s : Session} (hs : Started s) (autoProcess : Bool) :
    Started (s.withAutoProcess autoProcess)
  | withPrompt {s : Session} (hs : Started s) (prompt : Text) : Started (s.withPrompt prompt)

theorem withCapacity?_eq_some_iff {s t : Session} {capacity : Nat} :
    s.withCapacity? capacity = some t ↔ ∃ h, History.ofCapacity? capacity = some h ∧
      { s with history := h.push s.document.snapshot } = t := Option.map_eq_some_iff

def Reachable (s : Session) : Prop := ∃ s₀ os, Started s₀ ∧ s = run s₀ os

theorem Started.reachable {s : Session} (hs : Started s) : s.Reachable := ⟨s, [], hs, rfl⟩

theorem Reachable.run {s : Session} (hs : s.Reachable) (os : List Operation) :
    (s.run os).Reachable := by
  obtain ⟨s₀, os₀, hs₀, rfl⟩ := hs
  exact ⟨s₀, os₀ ++ os, hs₀, (run_append s₀ os₀ os).symm⟩

end Session

def Outcome.leavesDocument : Outcome → Bool
  | edited _ _ | undone _ | redone _ => false
  | _ => true

/-- The ways in which a document and its history move together, and what comes of it. -/
inductive Shift (d : Document) (h : History) :
    Option (Except Fault Outcome) → Document → History → Prop
  | stay {r : Option (Except Fault Outcome)} (hr : ∀ o, r = some (.ok o) → o.leavesDocument) :
      Shift d h r d h
  | snapshot {o : Outcome} (ho : o.leavesDocument) : Shift d h (some (.ok o)) d (h.push d.snapshot)
  | commit {e : Document} (he : e.selection.Valid e.buffer) (v : Option Marker.Violation) :
    Shift d h (some (.ok (.edited (changes d.buffer e.buffer) v))) e
      ((h.push d.snapshot).push e.snapshot)
  | undo {k : History} (hk : h.undo? = some k) {e : Document}
      (he : e = .atEnd (k.current?.getD [])) :
    Shift d h (some (.ok (.undone (changes d.buffer e.buffer)))) e k
  | redo {k : History} (hk : h.redo? = some k) {e : Document}
      (he : e = .atEnd (k.current?.getD [])) :
    Shift d h (some (.ok (.redone (changes d.buffer e.buffer)))) e k
  | replace {e : Document} (he : e.selection.Valid e.buffer) : Shift d h none e (h.push e.snapshot)

section Stay

variable {d : Document} {h : History}

theorem Shift.of_leavesDocument {o : Outcome} (ho : o.leavesDocument) :
    Shift d h (some (.ok o)) d h :=
  .stay (by rintro _ ⟨⟩; exact ho)

theorem Shift.of_error (f : Fault) : Shift d h (some (.error f)) d h := .stay (by rintro _ ⟨⟩)

theorem Shift.of_none : Shift d h none d h := .stay (by rintro _ ⟨⟩)

end Stay

section Effect

variable {d e : Document} {v : Option Marker.Violation}

theorem Document.valid_insert (d : Document) (t : Text) :
    (d.insert t).selection.Valid (d.insert t).buffer := valid_ofParts _ _

theorem Document.valid_of_effect {rule : Option Rule} {t : Text}
    (h : d.effect rule t = .ok (.edit e v)) : e.selection.Valid e.buffer := by
  cases rule with
  | none =>
    cases ht : d.dictation? t with
    | none => simp [effect, ht] at h
    | some u =>
      simp only [effect, ht, Except.ok.injEq, Effect.edit.injEq] at h
      exact h.1 ▸ d.valid_insert u
  | some r =>
    simp only [effect, Rule.effect] at h
    cases hr : r.action with
    | command c => simp [hr] at h
    | substitution u =>
      simp only [hr, Except.ok.injEq, Effect.edit.injEq] at h
      exact h.1 ▸ d.valid_insert u
    | replacement pattern template =>
      cases ho : r.operation with
      | error f => simp [hr, Rule.replaceMatches, ho, Except.map] at h
      | ok o =>
        simp only [hr, Rule.replaceMatches, ho, Except.map, Except.ok.injEq, Effect.edit.injEq] at h
        exact h.1 ▸ Marker.valid_recover _ _

end Effect

namespace Session

variable (s : Session)

def Shifts (r : Session × Option (Except Fault Outcome)) : Prop :=
  Shift s.document s.history r.2 r.1.document r.1.history

theorem shifts_undo : s.Shifts (s.undo.map id (some ∘ .ok)) := by
  rw [undo]
  cases hu : s.history.undo? with
  | none => exact .of_leavesDocument rfl
  | some k => exact .undo hu rfl

theorem shifts_redo : s.Shifts (s.redo.map id (some ∘ .ok)) := by
  rw [redo]
  cases hr : s.history.redo? with
  | none => exact .of_leavesDocument rfl
  | some k => exact .redo hr rfl

theorem shifts_perform (c : Command) : s.Shifts ((s.perform c).map id (some ∘ .ok)) := by
  cases c with
  | undo => exact s.shifts_undo
  | redo => exact s.shifts_redo
  | stop | discard => exact .of_leavesDocument rfl
  | process | execute => exact .snapshot rfl

theorem shifts_apply (rule : Option Rule) (text : Text) :
    s.Shifts ((s.apply rule text).map id some) := by
  rw [apply]
  cases he : s.document.effect rule text with
  | error f => exact .of_error f
  | ok e =>
    cases e with
    | edit d v => exact .commit (Document.valid_of_effect he) v
    | command c => exact s.shifts_perform c
    | unchanged => exact .of_leavesDocument rfl

theorem shifts_process (text : Text) : s.Shifts ((s.process text).map id some) := by
  rw [process]
  split
  · exact .of_leavesDocument rfl
  · exact s.shifts_apply _ _

theorem shifts_hear (text : Text) (final : Bool) : s.Shifts ((s.hear text final).map id some) := by
  rw [hear]
  split
  · exact .of_leavesDocument rfl
  · dsimp only
    cases s.rules.route (s.transcript text) with
    | process before | execute before | discard => exact .of_leavesDocument rfl
    -- The document and the history of the closed segment are those of the session.
    | rule r => exact s.endSegment.shifts_apply (some r) _
    | dictation =>
      dsimp only
      split_ifs
      · exact .of_leavesDocument rfl
      · exact shifts_process { s with pending := [] } _
      · exact .of_leavesDocument rfl

theorem shifts_takeTranscription (text : Text) (execute : Bool) :
    s.Shifts ((s.takeTranscription text execute).map id some) := by
  rw [takeTranscription]
  split
  · exact .of_leavesDocument rfl
  · exact s.shifts_process _

theorem shifts_execute (service : Request → Except Fault Text) (instruction : Text) :
    s.Shifts ((s.execute service instruction).map id some) := by
  rw [execute]
  split
  · exact .of_error _
  · exact .commit (Marker.valid_recover _ _) _

theorem shifts_operate (o : Operation) (ho : ∀ d, o ≠ .replaceDocument d false) :
    s.Shifts (s.operate o) := by
  cases o with
  | hear text final => exact s.shifts_hear text final
  | process text => exact s.shifts_process text
  | takeTranscription text execute => exact s.shifts_takeTranscription text execute
  | execute service instruction => exact s.shifts_execute service instruction
  | undo => exact s.shifts_undo
  | redo => exact s.shifts_redo
  | stop | discard => exact .of_leavesDocument rfl
  | beginSegment | listen | reload rules => exact .of_none
  | replaceDocument d record =>
    cases record with
    | true => exact .replace (Document.valid_ofParts _ _)
    | false => exact absurd rfl (ho d)

end Session

end Dictation
