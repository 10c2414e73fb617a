import Dictation.Proofs.Marker.Parking
import Dictation.Proofs.Session.Clamping

namespace Dictation

namespace Marker

theorem recover_of_unmarked {t : Text} (ht : Unmarked t) (line : Nat) :
    recover t line = ⟨⟨t, .caret (t.lineStart line)⟩, some .absent⟩ := by
  have hdocument := (recover_of_neither line ht.1 ht.2.1).1
  have hviolation : violation? t = some .absent := by
    rw [violation?, tokenViolation?, count_start_tokens, count_stop_tokens,
      List.count_eq_zero.2 ht.1, List.count_eq_zero.2 ht.2.1]
    rfl
  rw [ordinary_of_unmarked ht] at hdocument
  rw [← hdocument, ← hviolation]
  rfl

end Marker

namespace Document

/-- The caret at the start of the line that the selection starts on. -/
def toLineStart (d : Document) : Document := ⟨d.buffer, .caret (d.buffer.lineStart d.cursorLine)⟩

/-- The line that a selection starts on starts at or before it, and no line starts between. -/
theorem exists_line (d : Document) :
    ∃ line, d.buffer.part? (d.buffer.lineStart d.cursorLine) d.clamped.start = some line ∧
      '\n' ∉ line := by
  obtain ⟨pre, line, hbefore, hsize, hline⟩ := Text.exists_line d.before (d.selected ++ d.after)
  rw [← List.append_assoc, ← d.buffer_eq_append] at hsize
  refine ⟨line, Text.part?_eq_some_iff.2 ⟨pre, d.selected ++ d.after, ?_, hsize, ?_⟩, hline⟩
  · rw [← hbefore, ← List.append_assoc, ← d.buffer_eq_append]
  · rw [← hbefore, d.size_before]

theorem replaceMatches_of_lost {d : Document} (hd : Marker.Unmarked d.buffer) {o : Operation}
    (ho : o.run (Marker.tag d) = d.buffer) :
    d.replaceMatches o = ⟨d.toLineStart, some .absent⟩ := by
  rw [replaceMatches, ho, Marker.recover_of_unmarked hd]
  rfl

end Document

theorem Rule.effect_of_operation {r : Rule} {o : Operation} (hr : r.operation = .ok o)
    (d : Document) :
    r.effect d = .ok (.edit (d.replaceMatches o).document (d.replaceMatches o).violation) := by
  cases haction : r.action with
  | command | substitution =>
    rw [operation, haction] at hr
    cases hr
  | replacement pattern template =>
    simp only [effect, haction, replaceMatches, hr]
    rfl

namespace Session

variable {s : Session}

theorem commit_toLineStart (v : Option Marker.Violation) :
    (s.commit s.document.toLineStart v).2 = .edited [] v := by
  have hunchanged : changes s.document.buffer s.document.buffer = [] := if_pos rfl
  rw [← hunchanged]
  rfl

/-- A line is found by its number wherever it starts; so the caret stays on its line when an edit
loses the markers and changes nothing else, whether it was a completion service or a rule that lost
them. -/
theorem caret_kept_on_line :
    (∀ (t : Text) (k : Nat), t.StartsLine (t.lineStart k) (min k (t.count '\n'))) ∧
    (∀ d : Document, ∃ line,
      d.buffer.part? (d.buffer.lineStart d.cursorLine) d.clamped.start = some line ∧ '\n' ∉ line) ∧
    ∀ s : Session, Marker.Unmarked s.document.buffer →
      (∀ service instruction reply, service ⟨s.prompt, Marker.tag s.document, instruction⟩ =
        .ok reply → reply.trim = s.document.buffer →
        (s.execute service instruction).1.document = s.document.toLineStart ∧
          (s.execute service instruction).2 = .ok (.edited [] (some .absent))) ∧
      ∀ (o : Dictation.Operation), o.run (Marker.tag s.document) = s.document.buffer →
        s.document.replaceMatches o = ⟨s.document.toLineStart, some .absent⟩ ∧
        ∀ (r : Rule) (text : Text), r.operation = .ok o →
          (s.apply (some r) text).1.document = s.document.toLineStart ∧
            (s.apply (some r) text).2 = .ok (.edited [] (some .absent)) := by
  refine ⟨Text.startsLine_lineStart, Document.exists_line, fun s hs => ⟨?_, ?_⟩⟩
  · intro service instruction reply hreply htrim
    have hrecover : Marker.recover reply.trim s.document.cursorLine = ⟨s.document.toLineStart,
        some .absent⟩ := by
      rw [htrim, Marker.recover_of_unmarked hs]
      rfl
    rw [execute, hreply]
    dsimp only
    rw [hrecover]
    exact ⟨rfl, congrArg Except.ok (commit_toLineStart _)⟩
  · intro o ho
    have hreplaced := Document.replaceMatches_of_lost hs ho
    refine ⟨hreplaced, fun r text hr => ?_⟩
    have heffect : s.document.effect (some r) text =
        .ok (.edit s.document.toLineStart (some .absent)) := by
      rw [Document.effect, Rule.effect_of_operation hr, hreplaced]
    rw [apply, heffect]
    exact ⟨rfl, congrArg Except.ok (commit_toLineStart _)⟩

theorem caret_kept_on_second_line :
    let s := start ⟨[], []⟩ ⟨['é', '\n', 'b', 'c'], ⟨4, 5⟩⟩
    let service (request : Request) : Except Fault Text := .ok (' ' :: Marker.strip request.tagged)
    let r : Rule := ⟨['t'], .replacement (Marker.startMark ++ '|' :: Marker.stopMark) [], 1⟩
    Marker.Unmarked s.document.buffer ∧ s.document.toLineStart = ⟨s.document.buffer, .caret 3⟩ ∧
      (s.execute service ['x']).1.document = s.document.toLineStart ∧
      (s.execute service ['x']).2 = .ok (.edited [] (some .absent)) ∧
      (s.apply (some r) ['t']).1.document = s.document.toLineStart ∧
      (s.apply (some r) ['t']).2 = .ok (.edited [] (some .absent)) := by
  intro s service r
  have hunmarked : Marker.Unmarked s.document.buffer := by decide
  let marker (c : Char) : Pattern := .seq (.one (· == c)) (.one (· == Marker.selector))
  let e : Pattern.Expression := ⟨.alt (marker Marker.startBase) (marker Marker.stopBase), []⟩
  let o : Dictation.Operation := ⟨e, Template.toReplacement (Marker.canonical []) e.pattern.groups⟩
  have ho : r.operation = .ok o := by
    have hcanonical : Marker.canonical (Marker.startMark ++ '|' :: Marker.stopMark) =
        Marker.startMark ++ '|' :: Marker.stopMark := by decide
    have hread : Pattern.read? { multiLine := true } (Marker.startMark ++ '|' :: Marker.stopMark) =
        some e := rfl
    simp only [r, Rule.operation, Operation.read?, hcanonical, hread, Option.map_some, o]
  have hrun : o.run (Marker.tag s.document) = s.document.buffer := by decide +kernel
  obtain ⟨hreply, hrule⟩ := caret_kept_on_line.2.2 s hunmarked
  obtain ⟨hdocument, houtcome⟩ := hreply service ['x'] _ rfl (by decide)
  obtain ⟨hdocument', houtcome'⟩ := (hrule o hrun).2 r ['t'] ho
  exact ⟨hunmarked, by decide, hdocument, houtcome, hdocument', houtcome'⟩

end Session

end Dictation
