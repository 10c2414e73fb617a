import Dictation.Replacement
import Dictation.Text.Lines

namespace Dictation.Template

open Replacement (Piece)

/-- The group that digits after a dollar sign stand for, and the rest: two digits if there is such a
group, otherwise one. -/
def group? (groups : Nat) : Text → Option (Nat × Text)
  | [] => none
  | c :: t =>
    if !c.isDigit then none
    else
      let first := c.toNat - 48
      let single := if 1 ≤ first ∧ first ≤ groups then some (first, t) else none
      match t with
      | d :: rest =>
        let both := 10 * first + (d.toNat - 48)
        if d.isDigit ∧ 1 ≤ both ∧ both ≤ groups then some (both, rest) else single
      | [] => single

def name? : Text → Option (Text × Text)
  | '<' :: t =>
    let name := t.takeWhile (· != '>')
    if !name.isEmpty && name.length < t.length then some (name, t.drop (name.length + 1)) else none
  | _ => none

/-- What a dollar sign and the text after it stand for, and the rest. -/
def reference? (groups : Nat) : Text → Option (Piece × Text)
  | '$' :: t => some (.plain '$', t)
  | '&' :: t => some (.group 0, t)
  | t =>
    match group? groups t with
    | some (i, rest) => some (.group i, rest)
    | none => (name? t).map fun (name, rest) => (.named name, rest)

theorem length_of_group? {groups i : Nat} {t rest : Text} (h : group? groups t = some (i, rest)) :
    rest.length < t.length := by
  cases t with
  | nil => simp [group?] at h
  | cons c t =>
    simp only [group?] at h
    cases t with
    | nil => grind
    | cons d t => grind

theorem length_of_name? {t name rest : Text} (h : name? t = some (name, rest)) :
    rest.length < t.length := by
  unfold name? at h
  split at h
  · simp only [Option.ite_none_right_eq_some, Option.some.injEq, Prod.mk.injEq] at h
    obtain ⟨_, rfl, rfl⟩ := h
    simp only [List.length_drop, List.length_cons]
    omega
  · cases h

theorem length_of_reference? {groups : Nat} {t rest : Text} {p : Piece}
    (h : reference? groups t = some (p, rest)) : rest.length < t.length := by
  unfold reference? at h
  split at h
  · simp only [Option.some.injEq, Prod.mk.injEq] at h
    simp [← h.2]
  · simp only [Option.some.injEq, Prod.mk.injEq] at h
    simp [← h.2]
  · split at h
    · rename_i hg
      simp only [Option.some.injEq, Prod.mk.injEq] at h
      exact h.2 ▸ length_of_group? hg
    · simp only [Option.map_eq_some_iff, Prod.mk.injEq] at h
      obtain ⟨⟨_, _⟩, hn, _, rfl⟩ := h
      exact length_of_name? hn

def pieces (groups : Nat) : Text → List Piece
  | [] => []
  | c :: t =>
    if c = '$' then
      match h : reference? groups t with
      | some (p, rest) =>
        have := length_of_reference? h
        p :: pieces groups rest
      | none => .plain c :: pieces groups t
    else .plain c :: pieces groups t
termination_by t => t.length

def read (groups : Nat) (template : Text) : List Piece := pieces groups template.decodeNewlines

def toReplacement (template : Text) (groups : Nat) : Text :=
  Replacement.write (read groups template)

end Dictation.Template
