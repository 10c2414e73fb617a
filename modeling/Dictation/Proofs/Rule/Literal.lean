import Dictation.Edit
import Dictation.Proofs.Marker.RoundTrip
import Dictation.Proofs.Pattern.Literal
import Dictation.Proofs.Template

namespace Dictation

open Document (ofThree)
open Marker (Unmarked startBase stopBase selector)
open Text (replaceEach)

section Plain

variable {t : Text} {c : Char}

theorem Text.size_replicate (n : Nat) (c : Char) :
    Text.size (List.replicate n c) = n * c.utf8Size := by
  induction n with
  | zero => rw [List.replicate_zero, Text.size_nil, Nat.zero_mul]
  | succ n ih => rw [List.replicate_succ, Text.size_cons, ih, Nat.succ_mul, Nat.add_comm]

theorem Text.decodeNewlines_of_notMem (ht : '\\' ∉ t) : t.decodeNewlines = t := by
  fun_induction Text.decodeNewlines t with
  | case1 => rfl
  | case2 => rfl
  | case3 c d t h ih => exact absurd (h.1 ▸ List.mem_cons_self) ht
  | case4 c d t h ih => rw [ih (List.not_mem_of_not_mem_cons ht)]

theorem Pattern.notMem_metacharacters (hc : Character.isAlphanumeric c = true ∨ c = ' ') :
    c ∉ metacharacters := by
  have hall : metacharacters.all (fun m => !Character.isAlphanumeric m && m != ' ') = true := by
    decide
  intro hmem
  have hnone := List.all_eq_true.1 hall c hmem
  obtain hc | rfl := hc
  · rw [hc] at hnone
    cases hnone
  · cases hnone

theorem Template.reads_plain (groups : Nat) (ht : '$' ∉ t) : Reads groups t (t.map .plain) := by
  induction t with
  | nil => exact .nil
  | cons c t ih =>
    rw [List.mem_cons, not_or] at ht
    exact .plain (Ne.symm ht.1) (ih ht.2)

theorem Template.read_toReplacement_plain (groups : Nat) (hdollar : '$' ∉ t)
    (hbackslash : '\\' ∉ t) : Replacement.read (toReplacement t groups) = t.map .plain := by
  have hreads : Reads groups t.decodeNewlines (t.map .plain) := by
    rw [Text.decodeNewlines_of_notMem hbackslash]
    exact reads_plain groups hdollar
  rw [toReplacement, read, pieces_eq_iff.2 hreads]
  exact Replacement.read_write (writable_of_reads hreads (by simp))

end Plain

namespace Operation

variable {old new : Text}

theorem read?_of_plain (hold : ∀ c ∈ old, Character.isAlphanumeric c = true ∨ c = ' ')
    (hmark : Unmarked old) (new : Text) :
    read? old new = if 32 * old.size ≤ Pattern.weightLimit then
      some ⟨⟨.ofText old, []⟩, Template.toReplacement (Marker.canonical new)
        (Pattern.ofText old).groups⟩
      else none := by
  have hread := Pattern.read?_of_forall_notMem (f := { multiLine := true }) rfl rfl fun c hc =>
    Pattern.notMem_metacharacters (hold c hc)
  rw [read?, Marker.canonical_of_unmarked hmark, hread]
  split <;> rfl

theorem run_of_plain {groups : Nat} {names : List (Text × Nat)} (hne : old ≠ [])
    (hdollar : '$' ∉ new) (hbackslash : '\\' ∉ new) (t : Text) :
    run ⟨⟨.ofText old, names⟩, Template.toReplacement new groups⟩ t = replaceEach old new t := by
  refine Pattern.replaceAll_ofText hne (fun m => ?_) t
  rw [Template.read_toReplacement_plain groups hdollar hbackslash, List.flatMap_map]
  exact List.flatMap_singleton' new

end Operation

section Tag

variable {old new : Text}

/-- No occurrence goes across a marker, since the text looked for has neither its letter nor its
selector. -/
theorem replaceEach_tag (hne : old ≠ []) (hmark : Unmarked old) (hselector : selector ∉ old)
    (a b c : Text) : replaceEach old new (Marker.tag (ofThree a b c)) =
      Marker.tag (ofThree (replaceEach old new a) (replaceEach old new b)
        (replaceEach old new c)) := by
  have hcut {x : Char} (hx : x ∉ old) (s t : Text) :
      replaceEach old new (s ++ x :: t) = replaceEach old new s ++ x :: replaceEach old new t :=
    Text.replaceEach_append_cons hne hx s t
  have hbehind (t : Text) :
      replaceEach old new (selector :: t) = selector :: replaceEach old new t :=
    hcut hselector [] t
  simp only [Marker.tag_ofThree, Marker.startMark, Marker.stopMark, List.append_assoc,
    List.cons_append, List.nil_append]
  rw [hcut hmark.1, hbehind, hcut hmark.2.1, hbehind]

theorem unmarked_replaceEach (hne : old ≠ []) (hnew : Unmarked new) {t : Text} (ht : Unmarked t) :
    Unmarked (replaceEach old new t) := by
  have hno {x : Char} (hx : x ∉ t) (hx' : x ∉ new) : x ∉ replaceEach old new t := fun h =>
    (Text.mem_replaceEach hne h).elim hx hx'
  exact ⟨hno ht.1 hnew.1, hno ht.2.1 hnew.2.1, hno ht.2.2 hnew.2.2⟩

end Tag

namespace Rule

variable {r : Rule} {old new a b c : Text}

theorem replaceMatches_of_heavy (haction : r.action = .replacement old new)
    (hold : ∀ x ∈ old, Character.isAlphanumeric x = true ∨ x = ' ') (hmark : Unmarked old)
    (hheavy : Pattern.weightLimit < 32 * old.size) (d : Document) :
    r.replaceMatches d = .error (.operation r.trigger) := by
  have hread : Operation.read? old new = none := by
    rw [Operation.read?_of_plain hold hmark, if_neg (Nat.not_le.2 hheavy)]
  simp only [replaceMatches, operation, haction, hread]
  rfl

theorem replaceMatches_of_light (haction : r.action = .replacement old new) (hne : old ≠ [])
    (hold : ∀ x ∈ old, Character.isAlphanumeric x = true ∨ x = ' ') (hmark : Unmarked old)
    (hselector : selector ∉ old) (hdollar : '$' ∉ new) (hbackslash : '\\' ∉ new)
    (hnew : Unmarked new) (hd : Unmarked (a ++ b ++ c))
    (hlight : 32 * old.size ≤ Pattern.weightLimit) :
    r.replaceMatches (ofThree a b c) =
      .ok ⟨ofThree (replaceEach old new a) (replaceEach old new b) (replaceEach old new c),
        none⟩ := by
  let o : Operation := ⟨⟨.ofText old, []⟩, Template.toReplacement new (Pattern.ofText old).groups⟩
  have hoperation : r.operation = .ok o := by
    have hread := Operation.read?_of_plain hold hmark new
    rw [if_pos hlight, Marker.canonical_of_unmarked hnew] at hread
    simp only [operation, haction, hread, o]
  have hrun : o.run (Marker.tag (ofThree a b c)) =
      Marker.tag (ofThree (replaceEach old new a) (replaceEach old new b)
        (replaceEach old new c)) := by
    rw [Operation.run_of_plain hne hdollar hbackslash, replaceEach_tag hne hmark hselector]
  have hclean : Unmarked (replaceEach old new a ++ replaceEach old new b ++
      replaceEach old new c) := by
    obtain ⟨ha, hb, hc⟩ := Marker.unmarked_append_append.1 hd
    exact Marker.unmarked_append_append.2
      ⟨unmarked_replaceEach hne hnew ha, unmarked_replaceEach hne hnew hb,
        unmarked_replaceEach hne hnew hc⟩
  rw [replaceMatches, hoperation]
  refine congrArg Except.ok ?_
  rw [Document.replaceMatches, hrun, Marker.recover_tag hclean]

/-- A rule for a text of letters, digits and spaces replaces its occurrences before the selection,
in it and after it, each part on its own, and what was selected stays selected. A text that is too
heavy for a pattern is refused: one whose bytes take more than 10 MiB at 32 each, and none that
leaves 4 KiB of them. -/
theorem replaceMatches_literal (haction : r.action = .replacement old new) (hne : old ≠ [])
    (hold : ∀ x ∈ old, Character.isAlphanumeric x = true ∨ x = ' ') (hmark : Unmarked old)
    (hselector : selector ∉ old) (hdollar : '$' ∉ new) (hbackslash : '\\' ∉ new)
    (hnew : Unmarked new) (hd : Unmarked (a ++ b ++ c)) :
    (∀ e, Pattern.read? { multiLine := true } old = some e → r.replaceMatches (ofThree a b c) =
      .ok ⟨ofThree (replaceEach old new a) (replaceEach old new b) (replaceEach old new c), none⟩) ∧
    (Pattern.read? { multiLine := true } old = none →
      r.replaceMatches (ofThree a b c) = .error (.operation r.trigger)) ∧
    (32 * old.size + 4096 ≤ 10 * 1024 * 1024 →
      (Pattern.read? { multiLine := true } old).isSome) ∧
    (10 * 1024 * 1024 < 32 * old.size → Pattern.read? { multiLine := true } old = none) := by
  have hread : Pattern.read? { multiLine := true } old =
      if 32 * old.size ≤ Pattern.weightLimit then some ⟨.ofText old, []⟩ else none :=
    Pattern.read?_of_forall_notMem rfl rfl fun c hc => Pattern.notMem_metacharacters (hold c hc)
  have hlimit : Pattern.weightLimit = 10 * 1024 * 1024 - 208 := rfl
  by_cases hlight : 32 * old.size ≤ Pattern.weightLimit
  · rw [if_pos hlight] at hread
    refine ⟨fun e _ => ?_, fun hnone => ?_, fun _ => ?_, fun hheavy => ?_⟩
    · exact replaceMatches_of_light haction hne hold hmark hselector hdollar hbackslash hnew hd
        hlight
    · rw [hread] at hnone
      cases hnone
    · rw [hread]
      rfl
    · omega
  · rw [if_neg hlight] at hread
    refine ⟨fun e he => ?_, fun _ => ?_, fun hlight' => ?_, fun _ => hread⟩
    · rw [hread] at he
      cases he
    · exact replaceMatches_of_heavy haction hold hmark (Nat.not_le.1 hlight) _
    · omega

theorem replaceMatches_literal_at_ends :
    let r : Rule := ⟨['t'], .replacement ['a', 'a'] ['b', '\n'], 1⟩
    let a : Text := ['é', 'a', 'a', 'a']
    let b : Text := ['a', 'a', 'a']
    let c : Text := ['a', 'x']
    (r.action = .replacement ['a', 'a'] ['b', '\n'] ∧
      (∀ x ∈ ['a', 'a'], Character.isAlphanumeric x = true ∨ x = ' ') ∧
      Unmarked ['a', 'a'] ∧ selector ∉ ['a', 'a'] ∧
        ('$' ∉ ['b', '\n'] ∧ '\\' ∉ ['b', '\n'] ∧ Unmarked ['b', '\n']) ∧
      Unmarked (a ++ b ++ c)) ∧
    32 * Text.size ['a', 'a'] + 4096 ≤ 10 * 1024 * 1024 ∧
    (∃ e, Pattern.read? { multiLine := true } ['a', 'a'] = some e) ∧
    r.replaceMatches (ofThree a b c) =
      .ok ⟨ofThree ['é', 'b', '\n', 'a'] ['b', '\n', 'a'] ['a', 'x'], none⟩ := by
  intro r a b c
  have hletters : ['a', 'a'].all Character.isAlphanumeric = true := by decide
  have hold : ∀ x ∈ ['a', 'a'], Character.isAlphanumeric x = true ∨ x = ' ' := fun x hx =>
    .inl (List.all_eq_true.1 hletters x hx)
  have hmark : Unmarked ['a', 'a'] := by decide
  have hselector : selector ∉ ['a', 'a'] := by decide
  have hnew : '$' ∉ ['b', '\n'] ∧ '\\' ∉ ['b', '\n'] ∧ Unmarked ['b', '\n'] := by decide
  have hd : Unmarked (a ++ b ++ c) := by decide
  have hlight : 32 * Text.size ['a', 'a'] + 4096 ≤ 10 * 1024 * 1024 := by decide
  obtain ⟨hreplaced, -, hread, -⟩ :=
    replaceMatches_literal (r := r) rfl (by decide) hold hmark hselector hnew.1 hnew.2.1 hnew.2.2 hd
  obtain ⟨e, he⟩ := Option.isSome_iff_exists.1 (hread hlight)
  exact ⟨⟨rfl, hold, hmark, hselector, hnew, hd⟩, hlight, ⟨e, he⟩, hreplaced e he⟩

/-- A text of half a million letters is plain, too, and yet it is refused. -/
theorem not_replaceMatches_literal :
    let old : Text := List.replicate 500000 'a'
    let r : Rule := ⟨['t'], .replacement old ['b'], 1⟩
    (old ≠ [] ∧ (∀ x ∈ old, Character.isAlphanumeric x = true ∨ x = ' ') ∧ Unmarked old ∧
      selector ∉ old ∧
      ('$' ∉ ['b'] ∧ '\\' ∉ ['b'] ∧ Unmarked ['b']) ∧ Unmarked (['x'] ++ [] ++ [])) ∧
    r.replaceMatches (ofThree ['x'] [] []) ≠
      .ok ⟨ofThree (replaceEach old ['b'] ['x']) (replaceEach old ['b'] [])
        (replaceEach old ['b'] []), none⟩ := by
  intro old r
  have hletter {x : Char} (hx : x ∈ old) : x = 'a' := List.eq_of_mem_replicate hx
  have hno {x : Char} (hx : x ≠ 'a') : x ∉ old := fun h => hx (hletter h)
  have hold : ∀ x ∈ old, Character.isAlphanumeric x = true ∨ x = ' ' := by
    intro x hx
    obtain rfl := hletter hx
    exact .inl (by decide)
  have hmark : Unmarked old := ⟨hno (by decide), hno (by decide), hno (by decide)⟩
  have hheavy : Pattern.weightLimit < 32 * old.size := by
    rw [Text.size_replicate]
    decide
  have hne : old ≠ [] := by
    intro h
    rw [h] at hheavy
    exact absurd hheavy (by decide)
  have hrefused := replaceMatches_of_heavy (r := r) rfl hold hmark hheavy (ofThree ['x'] [] [])
  refine ⟨⟨hne, hold, hmark, hno (by decide), by decide, by decide⟩, ?_⟩
  rw [hrefused]
  rintro ⟨⟩

end Rule

end Dictation
