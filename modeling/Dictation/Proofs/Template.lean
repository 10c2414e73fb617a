import Dictation.Pattern.Reader
import Dictation.Proofs.Replacement
import Dictation.Template

namespace Dictation.Template

open Replacement (Piece)

def digit (c : Char) : Nat := c.toNat - 48

/-- What the text after a dollar sign stands for in a template for so many groups, and the text
after that. Two digits come before one. -/
inductive Refers (groups : Nat) : Text → Piece → Text → Prop
  | dollar (t : Text) : Refers groups ('$' :: t) (.plain '$') t
  | whole (t : Text) : Refers groups ('&' :: t) (.group 0) t
  | two {c d : Char} {t : Text} (hc : c.isDigit = true) (hd : d.isDigit = true)
    (hpos : 1 ≤ 10 * digit c + digit d) (hle : 10 * digit c + digit d ≤ groups) :
    Refers groups (c :: d :: t) (.group (10 * digit c + digit d)) t
  | one {c : Char} {t : Text} (hc : c.isDigit = true) (hpos : 1 ≤ digit c) (hle : digit c ≤ groups)
    (htwo : ∀ d u, t = d :: u → d.isDigit = true → groups < 10 * digit c + digit d) :
    Refers groups (c :: t) (.group (digit c)) t
  | named {name t : Text} (hne : name ≠ []) (hname : '>' ∉ name) :
    Refers groups ('<' :: (name ++ '>' :: t)) (.named name) t

/-- The pieces of a template in which newlines have been decoded, from left to right: all characters
stand for themselves but for the dollar signs that refer to something. -/
inductive Reads (groups : Nat) : Text → List Piece → Prop
  | nil : Reads groups [] []
  | plain {c : Char} {t : Text} {ps : List Piece} (hc : c ≠ '$') (ht : Reads groups t ps) :
    Reads groups (c :: t) (.plain c :: ps)
  | reference {t u : Text} {p : Piece} {ps : List Piece} (hp : Refers groups t p u)
      (hu : Reads groups u ps) :
    Reads groups ('$' :: t) (p :: ps)
  | literal {t : Text} {ps : List Piece} (hno : ∀ p u, ¬Refers groups t p u)
      (ht : Reads groups t ps) :
    Reads groups ('$' :: t) (.plain '$' :: ps)

section Reference

variable {groups i : Nat} {t u name : Text} {p : Piece}

theorem refers_of_group? (h : group? groups t = some (i, u)) : Refers groups t (.group i) u := by
  obtain _ | ⟨c, t⟩ := t
  · cases h
  simp only [group?, Bool.not_eq_true', Option.ite_none_left_eq_some] at h
  obtain ⟨hc, h⟩ := h
  rw [Bool.not_eq_false] at hc
  obtain _ | ⟨d, t⟩ := t
  · simp only [Option.ite_none_right_eq_some, Option.some.injEq, Prod.mk.injEq] at h
    obtain ⟨⟨hpos, hle⟩, rfl, rfl⟩ := h
    exact .one hc hpos hle (by rintro d u ⟨⟩)
  · dsimp only at h
    split at h
    · next htwo =>
      simp only [Option.some.injEq, Prod.mk.injEq] at h
      obtain ⟨rfl, rfl⟩ := h
      exact .two hc htwo.1 htwo.2.1 htwo.2.2
    · next htwo =>
      simp only [Option.ite_none_right_eq_some, Option.some.injEq, Prod.mk.injEq] at h
      obtain ⟨⟨hpos, hle⟩, rfl, rfl⟩ := h
      refine .one hc hpos hle ?_
      rintro d u ⟨⟩ hd
      by_contra hle
      exact htwo ⟨hd, by omega, Nat.not_lt.1 hle⟩

theorem name?_eq_some_iff : name? t = some (name, u) ↔ name ≠ [] ∧ '>' ∉
    name ∧ t = '<' :: (name ++ '>' :: u) := by
  constructor
  · intro h
    unfold name? at h
    split at h
    · next t =>
      simp only [Option.ite_none_right_eq_some, Bool.and_eq_true, Bool.not_eq_true',
        decide_eq_true_eq, List.isEmpty_eq_false_iff, Option.some.injEq, Prod.mk.injEq] at h
      obtain ⟨⟨hne, hlt⟩, rfl, hu⟩ := h
      obtain ⟨hname, ht⟩ := (Text.split_at_iff (c := '>')).1 ⟨hlt, rfl, hu⟩
      exact ⟨hne, hname, congrArg ('<' :: ·) ht⟩
    · cases h
  · rintro ⟨hne, hname, rfl⟩
    have htake := Text.takeWhile_ne_append hname u
    simp [name?, htake, hne]

theorem refers_of_reference? (h : reference? groups t = some (p, u)) : Refers groups t p u := by
  unfold reference? at h
  split at h
  · cases h
    exact .dollar _
  · cases h
    exact .whole _
  · split at h
    · next hgroup =>
      cases h
      exact refers_of_group? hgroup
    · obtain ⟨⟨name, rest⟩, hname, hp⟩ := Option.map_eq_some_iff.1 h
      cases hp
      obtain ⟨hne, hmem, rfl⟩ := name?_eq_some_iff.1 hname
      exact .named hne hmem

theorem reference?_cons {c : Char} (hdollar : c ≠ '$') (hwhole : c ≠ '&') (t : Text) :
    reference? groups (c :: t) =
      match group? groups (c :: t) with
      | some (i, rest) => some (.group i, rest)
      | none => (name? (c :: t)).map fun (name, rest) => (.named name, rest) := by
  unfold reference?
  split
  · next heq => exact absurd (List.cons.inj heq).1 hdollar
  · next heq => exact absurd (List.cons.inj heq).1 hwhole
  · rfl

theorem reference?_of_isDigit {c : Char} (hc : c.isDigit = true)
    (h : group? groups (c :: t) = some (i, u)) :
    reference? groups (c :: t) = some (.group i, u) := by
  have hdollar : c ≠ '$' := by
    rintro rfl
    cases hc
  have hwhole : c ≠ '&' := by
    rintro rfl
    cases hc
  rw [reference?_cons hdollar hwhole, h]

theorem reference?_of_refers (h : Refers groups t p u) : reference? groups t = some (p, u) := by
  cases h with
  | dollar | whole => rfl
  | @two c d _ hc hd hpos hle =>
    have hgroup : group? groups (c :: d :: u) = some (10 * digit c + digit d, u) := by
      simp only [group?, hc, Bool.not_true, Bool.false_eq_true, if_false]
      exact if_pos ⟨hd, hpos, hle⟩
    exact reference?_of_isDigit hc hgroup
  | @one c _ hc hpos hle htwo =>
    have hsingle : (if 1 ≤ digit c ∧ digit c ≤ groups then some (digit c, u) else none) =
        some (digit c, u) :=
      if_pos ⟨hpos, hle⟩
    have hgroup : group? groups (c :: u) = some (digit c, u) := by
      simp only [group?, hc, Bool.not_true, Bool.false_eq_true, if_false]
      cases u with
      | nil => exact hsingle
      | cons d v =>
        have hno : ¬(d.isDigit = true ∧ 1 ≤ 10 * digit c + digit d ∧
            10 * digit c + digit d ≤ groups) :=
          fun h => Nat.not_le.2 (htwo d v rfl h.1) h.2.2
        exact (if_neg hno).trans hsingle
    exact reference?_of_isDigit hc hgroup
  | @named name _ hne hname =>
    have hgroup : group? groups ('<' :: (name ++ '>' :: u)) = none := rfl
    rw [reference?_cons (by decide) (by decide), hgroup, name?_eq_some_iff.2 ⟨hne, hname, rfl⟩]
    rfl

theorem reference?_eq_some_iff : reference? groups t = some (p, u) ↔ Refers groups t p u :=
  ⟨refers_of_reference?, reference?_of_refers⟩

end Reference

section Reading

variable {groups : Nat} {t template name : Text} {ps : List Piece}

/-- Reading a template gives its pieces, and there is no other way to read it. -/
theorem pieces_eq_iff : pieces groups t = ps ↔ Reads groups t ps := by
  constructor
  · rintro rfl
    fun_induction pieces groups t with
    | case1 => exact .nil
    | case2 t p rest h _ ih => exact .reference (reference?_eq_some_iff.1 h) ih
    | case3 t h ih =>
      refine .literal (fun p u hp => ?_) ih
      rw [reference?_eq_some_iff.2 hp] at h
      cases h
    | case4 c t hc ih => exact .plain hc ih
  · intro h
    induction h with
    | nil => rw [pieces]
    | plain hc ht ih => rw [pieces, if_neg hc, ih]
    | reference hp hu ih =>
      rw [pieces, if_pos rfl]
      split
      · next h =>
        rw [reference?_eq_some_iff.2 hp] at h
        cases h
        rw [ih]
      · next h =>
        rw [reference?_eq_some_iff.2 hp] at h
        cases h
    | literal hno ht ih =>
      rw [pieces, if_pos rfl]
      split
      · next h => exact absurd (reference?_eq_some_iff.1 h) (hno _ _)
      · rw [ih]

def IsGroupName (name : Text) : Prop :=
  ∃ c cs, name = c :: cs ∧ Pattern.Reading.isNameChar true c = true ∧
    ∀ d ∈ cs, Pattern.Reading.isNameChar false d = true

theorem toNat_of_isDigit {c : Char} (hc : c.isDigit = true) : 48 ≤ c.toNat ∧ c.toNat ≤ 57 := by
  simpa [Char.isDigit, UInt32.le_iff_toNat_le] using hc

theorem isNameChar_of_isDigit {c : Char} (hc : c.isDigit = true) :
    Pattern.Reading.isNameChar true c = false := by
  have hrange := toNat_of_isDigit hc
  have halpha : c.isAlpha = false := by
    have houtside : (65 ≤ c.toNat → 90 < c.toNat) ∧ (97 ≤ c.toNat → 122 < c.toNat) := by omega
    delta Char.isAlpha Char.isUpper Char.isLower
    simpa [UInt32.le_iff_toNat_le] using houtside
  have hunder : (c == '_') = false := by
    rw [beq_eq_false_iff_ne]
    rintro rfl
    cases hc
  have hascii : c.toNat < 128 := by omega
  simp [Pattern.Reading.isNameChar, Character.isAlphabetic, hunder, hascii, halpha]

theorem isPlainName_of_isGroupName (h : IsGroupName name) : Replacement.IsPlainName name := by
  obtain ⟨c, cs, rfl, hc, hcs⟩ := h
  constructor
  · intro hbrace
    rcases List.mem_cons.1 hbrace with rfl | hbrace
    · cases hc
    · cases hcs _ hbrace
  · have hdigit : c.isDigit = false := by
      by_contra hd
      rw [Bool.not_eq_false] at hd
      rw [isNameChar_of_isDigit hd] at hc
      cases hc
    have hnumber : Text.toNat? (Nat.pow 2 64) (c :: cs) = none := by simp [Text.toNat?, hdigit]
    rw [← hnumber, Text.signedNat?]
    rintro t ⟨⟩
    cases hc

theorem writable_of_refers {u : Text} {p : Piece} (h : Refers groups t p u)
    (hname : ∀ name, p = .named name → IsGroupName name) : p.Writable := by
  have hdigit : ∀ c : Char, c.isDigit = true → digit c ≤ 9 := by
    intro c hc
    have hrange := toNat_of_isDigit hc
    simp only [digit]
    omega
  have hlimit : 99 < Nat.pow 2 64 := by decide
  cases h with
  | dollar => trivial
  | whole => exact Nat.zero_lt_of_lt hlimit
  | @two c d _ hc hd hpos hle =>
    have hc := hdigit c hc
    have hd := hdigit d hd
    have hsmall : 10 * digit c + digit d ≤ 99 := by omega
    exact Nat.lt_of_le_of_lt hsmall hlimit
  | @one c _ hc hpos hle htwo => exact Nat.lt_of_le_of_lt ((hdigit c hc).trans (by decide)) hlimit
  | @named name _ hne hmem => exact isPlainName_of_isGroupName (hname name rfl)

theorem writable_of_reads (h : Reads groups t ps)
    (hnames : ∀ name, .named name ∈ ps → IsGroupName name) : ∀ p ∈ ps, p.Writable := by
  induction h with
  | nil => simp
  | plain hc ht ih | literal hno ht ih =>
    rw [List.forall_mem_cons]
    exact ⟨trivial, ih fun name hmem => hnames name (List.mem_cons_of_mem _ hmem)⟩
  | reference hp hu ih =>
    rw [List.forall_mem_cons]
    refine ⟨writable_of_refers hp ?_, ih fun name hmem => hnames name (List.mem_cons_of_mem _ hmem)⟩
    rintro name rfl
    exact hnames name List.mem_cons_self

end Reading

/-- The text of a piece where groups have these texts, if any, by number and by name. -/
def textOf (numbered : Nat → Option Text) (named : Text → Option Text) : Piece → Text
  | .plain c => [c]
  | .group i => (numbered i).getD []
  | .named name => (named name).getD []

/-- A template can be read in one way only, and expanding the replacement made from it gives, at
every match, what its pieces stand for. -/
theorem expand_toReplacement (template : Text) (groups : Nat) :
    (∃! ps, Reads groups template.decodeNewlines ps) ∧
    ∀ ps, Reads groups template.decodeNewlines ps → (∀ name, .named name ∈ ps → IsGroupName name) →
      ∀ (names : List (Text × Nat)) (t : Text) (m : Pattern.Match),
        (Replacement.read (toReplacement template groups)).flatMap (·.expand names t m) =
          ps.flatMap (textOf (m.group? t) fun name => (names.lookup name).bind (m.group? t)) := by
  constructor
  · exact ⟨read groups template, pieces_eq_iff.1 rfl, fun ps hps => (pieces_eq_iff.2 hps).symm⟩
  · intro ps hps hnames names t m
    have hread : Replacement.read (toReplacement template groups) = ps := by
      rw [toReplacement, read, pieces_eq_iff.2 hps]
      exact Replacement.read_write (writable_of_reads hps hnames)
    have htext : (fun p : Piece => p.expand names t m) =
        textOf (m.group? t) fun name => (names.lookup name).bind (m.group? t) := by
      funext p
      cases p <;> rfl
    rw [hread, htext]

theorem expand_toReplacement_of_each :
    let template : Text := "$12$<w>$x\\n".toList
    let ps : List Piece := [.group 1, .plain '2', .named ['w'], .plain '$', .plain 'x', .plain '\n']
    let m : Pattern.Match := ⟨0, 2, [(1, 1, 2)]⟩
    (Reads 1 template.decodeNewlines ps ∧ ∀ name, .named name ∈ ps → IsGroupName name) ∧
    (Replacement.read (toReplacement template 1)).flatMap (·.expand [(['w'], 1)] ['a', 'b'] m) =
      ['b', '2', 'b', '$', 'x', '\n'] := by
  intro template ps m
  have hdecoded : template.decodeNewlines = '$' :: '1' :: '2' :: '$' :: '<' ::
      (['w'] ++ '>' :: ['$', 'x', '\n']) := by
    decide
  have hone : Refers 1 ('1' :: '2' :: '$' :: '<' :: (['w'] ++ '>' :: ['$', 'x', '\n'])) (.group 1)
      ('2' :: '$' :: '<' :: (['w'] ++ '>' :: ['$', 'x', '\n'])) :=
    reference?_eq_some_iff.1 rfl
  have hnone : ∀ p u, ¬Refers 1 ['x', '\n'] p u := by
    intro p u h
    cases reference?_eq_some_iff.2 h
  have hps : Reads 1 template.decodeNewlines ps := by
    rw [hdecoded]
    refine .reference hone (.plain (by decide) (.reference (.named (by decide) (by decide)) ?_))
    exact .literal hnone (.plain (by decide) (.plain (by decide) .nil))
  have hnames : ∀ name, .named name ∈ ps → IsGroupName name := by
    intro name hname
    obtain rfl : name = ['w'] := by simpa [ps] using hname
    exact ⟨'w', [], rfl, by decide, by simp⟩
  exact ⟨⟨hps, hnames⟩, (expand_toReplacement template 1).2 ps hps hnames [(['w'], 1)] ['a', 'b'] m⟩

end Dictation.Template
