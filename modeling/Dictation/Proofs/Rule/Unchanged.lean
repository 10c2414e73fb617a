import Dictation.Edit
import Dictation.Proofs.Marker.RoundTrip
import Dictation.Proofs.Pattern.Order
import Dictation.Proofs.Pattern.Replacing
import Dictation.Proofs.Template

namespace Dictation

namespace Template

theorem read_toReplacement_whole (groups : Nat) :
    Replacement.read (toReplacement (Marker.canonical ['$', '&']) groups) = [.group 0] := by
  have hreads : Reads groups ['$', '&'] [.group 0] := .reference (.whole []) .nil
  have hpieces : read groups (Marker.canonical ['$', '&']) = [.group 0] := pieces_eq_iff.2 hreads
  have hwritable : ∀ p ∈ [Replacement.Piece.group 0], p.Writable :=
    writable_of_reads hreads (by simp)
  rw [toReplacement, hpieces, Replacement.read_write hwritable]

end Template

namespace Operation

variable {o : Operation} {t : Text}

theorem run_of_no_match (h : o.expression.pattern.matchesIn t = false) : o.run t = t := by
  refine Pattern.replaceAll_of_none fun x y htext hfits => ?_
  have hmatches : o.expression.pattern.matchesIn t = true :=
    Pattern.matchesIn_iff.2 ⟨x.length, htext ▸ Pattern.startsAt_append_iff.2 hfits⟩
  rw [h] at hmatches
  cases hmatches

theorem run_of_whole_match (h : Replacement.read o.replacement = [.group 0]) : o.run t = t := by
  refine Pattern.replaceAll_of_whole_match fun m _ => ?_
  simp only [h, List.flatMap_cons, List.flatMap_nil, List.append_nil, Replacement.Piece.expand,
    Pattern.Match.group?, if_pos, Option.getD_some]

end Operation

namespace Rule

variable {r : Rule} {pattern template : Text} {e : Pattern.Expression} {d : Document}

/-- An operation that finds nothing to replace, or replaces each match by itself, gives back the
document that it was given, with the same selection and nothing wrong with the markers. -/
theorem replaceMatches_of_nothing_rewritten (haction : r.action = .replacement pattern template)
    (hcompiles : Pattern.read? { multiLine := true } (Marker.canonical pattern) = some e)
    (hvalid : d.selection.Valid d.buffer) (hunmarked : Marker.Unmarked d.buffer)
    (hnothing : e.pattern.matchesIn (Marker.tag d) = false ∨ template = ['$', '&']) :
    r.replaceMatches d = .ok ⟨d, none⟩ ∧ r.effect d = .ok (.edit d none) := by
  let o : Operation := ⟨e, Template.toReplacement (Marker.canonical template) e.pattern.groups⟩
  have hoperation : r.operation = .ok o := by
    simp only [operation, haction, Operation.read?, hcompiles, Option.map_some, o]
  have hrun : o.run (Marker.tag d) = Marker.tag d := by
    rcases hnothing with hnone | rfl
    · exact Operation.run_of_no_match hnone
    · exact Operation.run_of_whole_match (Template.read_toReplacement_whole _)
  have hrecovered : d.replaceMatches o = ⟨d, none⟩ := by
    obtain ⟨a, b, c, rfl⟩ := Document.exists_eq_ofThree hvalid
    rw [Document.replaceMatches, hrun, Marker.recover_tag hunmarked]
  have hreplaced : r.replaceMatches d = .ok ⟨d, none⟩ := by
    rw [replaceMatches, hoperation, ← hrecovered]
    rfl
  refine ⟨hreplaced, ?_⟩
  simp only [effect, haction, hreplaced]
  rfl

theorem replaceMatches_of_nothing_rewritten_at_caret :
    let d : Document := ⟨['a', 'b'], .caret 1⟩
    let covering : Rule := ⟨['t'], .replacement ['.', '*'] ['$', '&'], 1⟩
    let split : Rule := ⟨['t'], .replacement ['a', 'b'] ['x'], 2⟩
    let pattern : Pattern := .seq (.one (· == 'a')) (.one (· == 'b'))
    (d.selection.Valid d.buffer ∧ Marker.Unmarked d.buffer) ∧
      pattern.matchesIn d.buffer = true ∧ pattern.matchesIn (Marker.tag d) = false ∧
      (covering.replaceMatches d = .ok ⟨d, none⟩ ∧ covering.effect d = .ok (.edit d none)) ∧
      (split.replaceMatches d = .ok ⟨d, none⟩ ∧ split.effect d = .ok (.edit d none)) := by
  intro d covering split pattern
  have hvalid : d.selection.Valid d.buffer := Selection.valid_append ['a'] [] ['b']
  have hunmarked : Marker.Unmarked d.buffer := by decide
  have hmissing : pattern.matchesIn (Marker.tag d) = false := by decide
  have hcovering : Pattern.read? { multiLine := true }
    ['.', '*'] = some ⟨.star true (.one (· != '\n')), []⟩ := rfl
  have hsplit : Pattern.read? { multiLine := true } ['a', 'b'] = some ⟨pattern, []⟩ := rfl
  exact ⟨⟨hvalid, hunmarked⟩, by decide, hmissing,
    replaceMatches_of_nothing_rewritten rfl hcovering hvalid hunmarked (.inr rfl),
    replaceMatches_of_nothing_rewritten rfl hsplit hvalid hunmarked (.inl hmissing)⟩

end Rule

end Dictation
