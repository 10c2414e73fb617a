import Dictation.Proofs.Pattern.Suffix.Basic

namespace Dictation.Pattern

open Character (isBlank)

variable {α β γ : Type} {w : Text} {E E' : Text → Prop}

/-- What is left lies within `w`, so that some of `w` has been read. -/
def Past (w u : Text) : Prop := u.length < w.length

def Leaves (t : Text) (o : Option (α × Text)) : Prop := ∀ {a u}, o = some (a, u) → u <:+ t

/-- What was read in front of `w` is read without it, too, unless one of the exceptions is left. -/
def Recovers (w : Text) (E : Text → Prop) (o p : Option (α × Text)) : Prop :=
  ∀ {a u}, o = some (a, u) → E u ∨ ∃ r, u = r ++ w ∧ p = some (a, r)

/-- A reader reads a text from the front, and what it reads in front of `w` it reads without it. -/
structure Local (w : Text) (E : Text → Prop) (R : Text → Option (α × Text)) : Prop where
  leaves : ∀ t, Leaves t (R t)
  recovers : ∀ t, Recovers w E (R (t ++ w)) (R t)

/-- What is passed over at the start of a text is passed over without `w`, too. -/
structure Trims (w : Text) (p : Text → Text) : Prop where
  leaves : ∀ t, p t <:+ t
  recovers : ∀ t, Past w (p (t ++ w)) ∨ p (t ++ w) = p t ++ w

section Options

variable {t : Text}

theorem leaves_none : Leaves t (none : Option (α × Text)) := nofun

theorem leaves_some (a : α) (t : Text) : Leaves t (some (a, t)) := by
  rintro _ _ ⟨⟩
  exact List.suffix_rfl

theorem recovers_none {p : Option (α × Text)} : Recovers w E none p := nofun

theorem recovers_some (a : α) (t : Text) : Recovers w E (some (a, t ++ w)) (some (a, t)) := by
  rintro _ _ ⟨⟩
  exact .inr ⟨t, rfl, rfl⟩

end Options

namespace Local

variable {R S : Text → Option (α × Text)} {K : α → Text → Option (β × Text)}

theorem le (h : Local w E R) {t u : Text} {a : α} (hR : R t = some (a, u)) : u.length ≤ t.length :=
  (h.leaves t hR).length_le

theorem congr (h : Local w E R) (hS : ∀ t, S t = R t) : Local w E S := by
  rwa [funext hS]

theorem mono (h : Local w E R) (hE : ∀ u, E u → E' u) : Local w E' R where
  leaves := h.leaves
  recovers t _ _ hR := (h.recovers t hR).imp_left (hE _)

theorem fails : Local w E fun _ => (none : Option (α × Text)) :=
  ⟨fun _ => leaves_none, fun _ => recovers_none⟩

theorem returns (a : α) : Local w E fun t => some (a, t) := ⟨leaves_some a, recovers_some a⟩

theorem bind (h : Local w E R) (hK : ∀ a, Local w E' (K a))
    (hE : ∀ {a u b s}, E u → K a u = some (b, s) → E' s) :
    Local w E' fun t => (R t).bind fun x => K x.1 x.2 where
  leaves t b s hs := by
    obtain ⟨⟨a, u⟩, hR, hs⟩ := Option.bind_eq_some_iff.1 hs
    exact ((hK a).leaves u hs).trans (h.leaves t hR)
  recovers t b s hs := by
    obtain ⟨⟨a, u⟩, hR, hs⟩ := Option.bind_eq_some_iff.1 hs
    obtain hu | ⟨r, rfl, hr⟩ := h.recovers t hR
    · exact .inl (hE hu hs)
    · rw [hr]
      exact (hK a).recovers r hs

theorem bind_past (h : Local w (Past w) R) (hK : ∀ a, Local w (Past w) (K a)) :
    Local w (Past w) fun t => (R t).bind fun x => K x.1 x.2 :=
  h.bind hK fun hu hs => Nat.lt_of_le_of_lt ((hK _).le hs) hu

theorem map (h : Local w E R) (g : α → β) : Local w E fun t => (R t).map fun x => (g x.1, x.2) :=
  (h.bind (fun a => returns (g a)) fun hu hs => by cases hs; exact hu).congr fun t => by
    cases R t <;> rfl

theorem choose (o : Option γ) {T : γ → Text → Option (α × Text)} (h : ∀ x, Local w E (T x)) :
    Local w E fun t => o.bind fun x => T x t := by
  cases o with
  | none => exact fails
  | some x => exact h x

theorem made (o : Option γ) (g : γ → α) : Local w E fun t => o.map fun x => (g x, t) :=
  (choose o fun x => returns (g x)).congr fun t => by cases o <;> rfl

theorem same (o : Option α) : Local w E fun t => o.map (·, t) := made o id

theorem ite {p : Prop} [Decidable p] (h : p → Local w E R) (h' : ¬p → Local w E S) :
    Local w E fun t => if p then R t else S t := by
  by_cases hp : p
  · simpa only [hp, if_true] using h hp
  · simpa only [hp, if_false] using h' hp

theorem filter (h : Local w E R) (p : α → Bool) :
    Local w E fun t => (R t).filter fun x => p x.1 where
  leaves t _ _ hs := h.leaves t (Option.filter_eq_some_iff.1 hs).1
  recovers t _ _ hs := by
    obtain ⟨hR, hp⟩ := Option.filter_eq_some_iff.1 hs
    refine (h.recovers t hR).imp_right ?_
    rintro ⟨r, rfl, hr⟩
    exact ⟨r, rfl, Option.filter_eq_some_iff.2 ⟨hr, hp⟩⟩

theorem after {p : Text → Text} (hp : Trims w p) (hE : ∀ u, Past w u → E u) (h : Local w E R) :
    Local w E fun t => R (p t) where
  leaves t _ _ hR := (h.leaves (p t) hR).trans (hp.leaves t)
  recovers t _ _ hR := by
    obtain hpast | heq := hp.recovers t
    · exact .inl (hE _ (Nat.lt_of_le_of_lt (h.le hR) hpast))
    · rw [heq] at hR
      exact h.recovers (p t) hR

/-- A reader with fuel is local if each amount of fuel makes it so, and all amounts that suffice do
the same. -/
theorem fuel {R : Nat → Text → Option (α × Text)} (h : ∀ k, Local w E (R k))
    (hfuel : ∀ {t k m}, t.length < k → t.length < m → R k t = R m t) : Local w E fun t =>
      R (t.length + 1) t where
  leaves t := (h _).leaves t
  recovers t := by
    rw [hfuel (Nat.lt_succ_self t.length) (m := (t ++ w).length + 1)
      (by rw [List.length_append]; omega)]
    exact (h _).recovers t

variable (hw : w.head? = some ')')

include hw

theorem cons (hE : ∀ u, Past w u → E u) {K : Char → Text → Option (α × Text)}
    (hK : ∀ c, Local w E (K c))
    (hnil : R [] = none) (hcons : ∀ c t, R (c :: t) = K c t) : Local w E R where
  leaves t _ _ h := by
    cases t with
    | nil =>
      rw [hnil] at h
      cases h
    | cons c t =>
      rw [hcons] at h
      exact ((hK c).leaves t h).trans (List.suffix_cons c t)
  recovers t _ _ h := by
    cases t with
    | nil =>
      obtain ⟨v, rfl⟩ := List.head?_eq_some_iff.1 hw
      rw [List.nil_append, hcons] at h
      exact .inl (hE _ (Nat.lt_succ_of_le ((hK ')').le h)))
    | cons c t =>
      rw [List.cons_append, hcons] at h
      rw [hcons]
      exact (hK c).recovers t h

theorem look {p : Char → Bool} (hp : p ')' = false) {T : Char → Text → Option (α × Text)}
    (hT : ∀ c, Local w E (T c)) (hS : Local w E S) (hcons : ∀ c t, p c = true → R (c :: t) = T c t)
    (hother : ∀ t, (∀ c, t.head? = some c → p c = false) → R t = S t) : Local w E R where
  leaves t _ _ h := by
    by_cases ht : ∀ c, t.head? = some c → p c = false
    · rw [hother t ht] at h
      exact hS.leaves t h
    · obtain ⟨c, hc, hpc⟩ := by simpa only [Classical.not_forall] using ht
      obtain ⟨t, rfl⟩ := List.head?_eq_some_iff.1 hc
      rw [hcons c t (Bool.not_eq_false _ ▸ hpc)] at h
      exact ((hT c).leaves t h).trans (List.suffix_cons c t)
  recovers t _ _ h := by
    by_cases ht : ∀ c, t.head? = some c → p c = false
    · have htw : ∀ c, (t ++ w).head? = some c → p c = false := by
        cases t with
        | nil => exact fun c hc => Option.some.inj (hw.symm.trans hc) ▸ hp
        | cons d t => exact ht
      rw [hother _ htw] at h
      rw [hother t ht]
      exact hS.recovers t h
    · obtain ⟨c, hc, hpc⟩ := by simpa only [Classical.not_forall] using ht
      obtain ⟨t, rfl⟩ := List.head?_eq_some_iff.1 hc
      rw [List.cons_append, hcons c _ (Bool.not_eq_false _ ▸ hpc)] at h
      rw [hcons c t (Bool.not_eq_false _ ▸ hpc)]
      exact (hT c).recovers t h

theorem lookFor (c : Char) (hc : c ≠ ')') {T : Text → Option (α × Text)} (hT : Local w E T)
    (hS : Local w E S) (hcons : ∀ t, R (c :: t) = T t)
    (hother : ∀ t, t.head? ≠ some c → R t = S t) :
    Local w E R := by
  refine look hw (p := (· == c)) (beq_false_of_ne hc.symm)
    (fun _ => hT) hS (fun d t hd => ?_) fun t ht => hother t fun hhead => ?_
  · obtain rfl := eq_of_beq hd
    exact hcons t
  · have := ht c hhead
    rw [beq_self_eq_true] at this
    cases this

end Local

section Trims

variable {p q : Text → Text}

theorem Trims.comp (hq : Trims w q) (hp : Trims w p) : Trims w fun t => q (p t) where
  leaves t := (hq.leaves _).trans (hp.leaves t)
  recovers t := by
    obtain hpast | heq := hp.recovers t
    · exact .inl (Nat.lt_of_le_of_lt (hq.leaves _).length_le hpast)
    · rw [heq]
      exact hq.recovers (p t)

theorem skipComments_suffix (b : Bool) (t : Text) : Flags.skipComments b t <:+ t := by
  induction t generalizing b with
  | nil => cases b <;> exact List.suffix_rfl
  | cons c t ih =>
    cases b with
    | true => exact (ih _).trans (List.suffix_cons c t)
    | false =>
      rw [Flags.skipComments]
      split
      · exact (ih _).trans (List.suffix_cons c t)
      · split
        · exact (ih _).trans (List.suffix_cons c t)
        · exact List.suffix_rfl

theorem skip_suffix (f : Flags) (t : Text) : f.skip t <:+ t := by
  rw [Flags.skip]
  split
  · exact skipComments_suffix false t
  · exact List.suffix_rfl

variable (hw : w.head? = some ')')

include hw

theorem skipComments_append (t : Text) (b : Bool) :
    Past w (Flags.skipComments b (t ++ w)) ∧ Flags.skipComments b t = [] ∨
      Flags.skipComments b (t ++ w) = Flags.skipComments b t ++ w := by
  induction t generalizing b with
  | nil =>
    obtain ⟨v, rfl⟩ := List.head?_eq_some_iff.1 hw
    cases b with
    | false => exact .inr rfl
    | true => exact .inl ⟨Nat.lt_succ_of_le (length_skipComments_le _ v), rfl⟩
  | cons c t ih =>
    cases b with
    | true => exact ih (c != '\n')
    | false =>
      rw [List.cons_append, Flags.skipComments, Flags.skipComments]
      split
      · exact ih false
      · split
        · exact ih true
        · exact .inr rfl

theorem skip_append (f : Flags) (t : Text) :
    Past w (f.skip (t ++ w)) ∧ f.skip t = [] ∨ f.skip (t ++ w) = f.skip t ++ w := by
  rw [Flags.skip, Flags.skip]
  split
  · exact skipComments_append hw t false
  · exact .inr rfl

theorem trims_skip (f : Flags) : Trims w f.skip where
  leaves := skip_suffix f
  recovers t := (skip_append hw f t).imp_left And.left

theorem dropBlanks_append (t : Text) : (t ++ w).dropWhile isBlank = t.dropWhile isBlank ++ w := by
  obtain ⟨v, rfl⟩ := List.head?_eq_some_iff.1 hw
  rw [List.dropWhile_append]
  split
  · next hempty =>
    rw [List.isEmpty_iff.1 hempty]
    rfl
  · rfl

theorem trims_dropBlanks : Trims w (List.dropWhile isBlank) where
  leaves _ := List.dropWhile_suffix _
  recovers t := .inr (dropBlanks_append hw t)

theorem Local.skip {R : Text → Option (α × Text)} (h : Local w (Past w) R) (f : Flags) :
    Local w (Past w) fun t => R (f.skip t) :=
  h.after (trims_skip hw f) fun _ => id

theorem Local.skip_cons {R : Text → Option (α × Text)} (f : Flags)
    {K : Char → Text → Option (α × Text)}
    (hK : ∀ c, Local w (Past w) (K c)) (hnil : ∀ t, f.skip t = [] → R t = none)
    (hcons : ∀ t c r, f.skip t = c :: r → R t = K c r) : Local w (Past w) R := by
  have hlocal : Local w (Past w) fun t => t.head?.bind fun c => K c t.tail :=
    .cons hw (fun _ => id) hK rfl fun _ _ => rfl
  refine (hlocal.skip hw f).congr fun t => ?_
  cases ht : f.skip t with
  | nil => exact hnil t ht
  | cons c r => exact hcons t c r ht

theorem Local.skip_lookFor {R S T : Text → Option (α × Text)} (f : Flags) (c : Char) (hc : c ≠ ')')
    (hT : Local w (Past w) T) (hS : Local w (Past w) S)
    (hcons : ∀ t r, f.skip t = c :: r → R t = T r)
    (hother : ∀ t, (f.skip t).head? ≠ some c → R t = S (f.skip t)) : Local w (Past w) R := by
  have hlocal : Local w (Past w) fun t => if t.head? = some c then T t.tail else S t :=
    .lookFor hw c hc hT hS (fun t => if_pos rfl) fun t ht => if_neg ht
  refine (hlocal.skip hw f).congr fun t => ?_
  by_cases ht : (f.skip t).head? = some c
  · obtain ⟨r, hr⟩ := List.head?_eq_some_iff.1 ht
    rw [if_pos ht, hcons t r hr, hr, List.tail_cons]
  · rw [if_neg ht, hother t ht]

end Trims

section Spell

variable {p : Char → Bool} {f : Flags} {t : Text} {k m : Nat}

theorem spell_fuel (hk : t.length ≤ k) (hm : t.length ≤ m) : spell p f k t = spell p f m t := by
  induction k generalizing m t with
  | zero =>
    obtain rfl := List.length_eq_zero_iff.1 (Nat.le_zero.1 hk)
    cases m <;> rfl
  | succ k ih =>
    cases t with
    | nil => cases m <;> rfl
    | cons c t =>
      obtain ⟨m, rfl⟩ := Nat.exists_eq_succ_of_ne_zero (Nat.ne_zero_of_lt hm)
      have hlen := length_skip_le f t
      rw [List.length_cons] at hk hm
      rw [spell, spell, ih (m := m) (by omega) (by omega)]

theorem local_spell (hw : w.head? = some ')') (hp : p ')' = false) (f : Flags) (k : Nat) :
    Local w (Past w) fun t => some (spell p f k t) := by
  induction k with
  | zero => exact .returns []
  | succ k ih =>
    refine .look hw hp (fun c => (ih.skip hw f).map (c :: ·)) (.returns [])
      (fun c t hc => ?_) fun t ht => ?_
    · rw [spell, if_pos hc]
      rfl
    · cases t with
      | nil => rfl
      | cons c t => rw [spell, if_neg (Bool.eq_false_iff.1 (ht c rfl))]

end Spell

end Dictation.Pattern
