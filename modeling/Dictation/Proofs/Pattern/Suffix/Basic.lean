import Mathlib.Data.List.TakeWhile
import Dictation.Pattern.Reader

namespace Dictation.Pattern

/-- A text that ends a group. It has no newline, which would end a comment, and no colon, which
could end the name of a class. -/
structure Closing (w : Text) : Prop where
  head : ∃ t, w = ')' :: t
  newline : '\n' ∉ w
  colon : ':' ∉ w

/-- What is left to read, and what is left with `w` behind it: that and `w`, unless a comment at the
end has swallowed `w`. -/
inductive Extends (w : Text) : Text → Text → Prop
  | behind (t : Text) : Extends w t (t ++ w)
  | swallowed : Extends w [] []

/-- What the first reading yields the second yields, too, as `R` relates the two. -/
def Carries {α β : Type} (R : α → β → Prop) (a : Option α) (b : Option β) : Prop :=
  ∀ x, a = some x → ∃ y, b = some y ∧ R x y

def Beside {α β γ : Type} (R : β → γ → Prop) (p : α × β) (q : α × γ) : Prop := q.1 = p.1 ∧ R p.2 q.2

namespace Carries

variable {α β γ δ : Type} {R : α → β → Prop} {S : γ → δ → Prop} {a : Option α} {b : Option β}

theorem none : Carries R none b := by
  rintro x ⟨⟩

theorem some {x : α} {y : β} (h : R x y) : Carries R (some x) (some y) := by
  rintro _ ⟨⟩
  exact ⟨y, rfl, h⟩

theorem refl (a : Option α) : Carries Eq a a := fun x hx => ⟨x, hx, rfl⟩

theorem bind (h : Carries R a b) {f : α → Option γ} {g : β → Option δ}
    (hfg : ∀ x y, R x y → Carries S (f x) (g y)) : Carries S (a.bind f) (b.bind g) := by
  intro z hz
  obtain ⟨x, hx, hz⟩ := Option.bind_eq_some_iff.1 hz
  obtain ⟨y, hy, hxy⟩ := h x hx
  rw [hy, Option.bind_some]
  exact hfg x y hxy z hz

theorem map (h : Carries R a b) {f : α → γ} {g : β → δ} (hfg : ∀ x y, R x y → S (f x) (g y)) :
    Carries S (a.map f) (b.map g) := by
  intro z hz
  obtain ⟨x, hx, rfl⟩ := Option.map_eq_some_iff.1 hz
  obtain ⟨y, hy, hxy⟩ := h x hx
  exact ⟨g y, by rw [hy, Option.map_some], hfg x y hxy⟩

theorem same (o : Option α) {f : α → γ} {g : α → δ} (hfg : ∀ x, S (f x) (g x)) :
    Carries S (o.map f) (o.map g) := (refl o).map fun x _ hxy => hxy ▸ hfg x

theorem mapFst {T : γ → δ → Prop} {a : Option (α × γ)} {b : Option (α × δ)}
    (h : Carries (Beside T) a b)
    (g : α → β) : Carries (Beside T) (a.map fun x => (g x.1, x.2)) (b.map fun x => (g x.1, x.2)) :=
  h.map fun _ _ hxy => ⟨congrArg g hxy.1, hxy.2⟩

end Carries

section Skip

variable {w t u r : Text} {f : Flags} {c : Char}

theorem Extends.length_le (h : Extends w t u) : t.length ≤ u.length := by
  cases h with
  | behind => simp
  | swallowed => exact Nat.le_refl _

theorem skip_nil (f : Flags) : f.skip [] = [] := by
  rw [Flags.skip]
  split <;> rfl

theorem skip_of_not_verbose {f : Flags} (hf : f.verbose = false) (t : Text) : f.skip t = t := by
  rw [Flags.skip, hf]
  rfl

theorem Closing.skip (hw : Closing w) (f : Flags) : f.skip w = w := by
  obtain ⟨t, rfl⟩ := hw.head
  rw [Flags.skip]
  split <;> rfl

theorem skipComments_of_not_newline (h : '\n' ∉ w) : Flags.skipComments true w = [] := by
  induction w with
  | nil => rfl
  | cons c w ih =>
    rw [List.mem_cons, not_or] at h
    have hc : (c != '\n') = true := bne_iff_ne.2 (Ne.symm h.1)
    rw [Flags.skipComments, hc]
    exact ih h.2

theorem Closing.skipComments (hw : Closing w) (b : Bool) (t : Text) :
    Extends w (Flags.skipComments b t) (Flags.skipComments b (t ++ w)) := by
  induction t generalizing b with
  | nil =>
    cases b with
    | false =>
      obtain ⟨v, rfl⟩ := hw.head
      exact .behind []
    | true =>
      rw [List.nil_append, skipComments_of_not_newline hw.newline]
      exact .swallowed
  | cons c t ih =>
    cases b with
    | true => exact ih (c != '\n')
    | false =>
      rw [List.cons_append, Flags.skipComments, Flags.skipComments]
      split
      · exact ih false
      · split
        · exact ih true
        · exact .behind (c :: t)

theorem Extends.skip (hw : Closing w) (h : Extends w t u) (f : Flags) :
    Extends w (f.skip t) (f.skip u) := by
  cases h with
  | swallowed =>
    rw [skip_nil]
    exact .swallowed
  | behind =>
    rw [Flags.skip, Flags.skip]
    split
    · exact hw.skipComments false t
    · exact .behind t

theorem length_skipComments_le (b : Bool) (t : Text) :
    (Flags.skipComments b t).length ≤ t.length := by
  induction t generalizing b with
  | nil => cases b <;> exact Nat.le_refl _
  | cons c t ih =>
    cases b with
    | true => exact Nat.le_succ_of_le (ih _)
    | false =>
      rw [Flags.skipComments]
      split
      · exact Nat.le_succ_of_le (ih _)
      · split
        · exact Nat.le_succ_of_le (ih _)
        · exact Nat.le_refl _

theorem length_skip_le (f : Flags) (t : Text) : (f.skip t).length ≤ t.length := by
  rw [Flags.skip]
  split
  · exact length_skipComments_le false t
  · exact Nat.le_refl _

theorem Extends.eq_cons (h : Extends w (c :: t) u) : u = c :: (t ++ w) := by
  cases h
  rfl

theorem Extends.skip_eq_cons (hw : Closing w) (h : Extends w t u) (ht : f.skip t = c :: r) :
    f.skip u = c :: (r ++ w) := by
  have hskip := h.skip hw f
  rw [ht] at hskip
  exact hskip.eq_cons

end Skip

/-- A word at the start of a text ends before `w`, or else what stands behind it lies within `w`. -/
theorem takeWhile_append_cases (p : Char → Bool) (t w : Text) :
    ((t ++ w).takeWhile p = t.takeWhile p ∧ t.drop (t.takeWhile p).length ≠ [] ∧
      (t ++ w).drop (t.takeWhile p).length = t.drop (t.takeWhile p).length ++ w) ∨
    t.drop (t.takeWhile p).length = [] ∧ (t ++ w).drop ((t ++ w).takeWhile p).length <:+ w := by
  have hle : (t.takeWhile p).length ≤ t.length := (List.takeWhile_prefix p).length_le
  rw [List.takeWhile_append]
  split
  · next hlen =>
    right
    rw [hlen, List.drop_length, List.length_append, List.drop_append,
      List.drop_of_length_le (Nat.le_add_right _ _), List.nil_append]
    exact ⟨rfl, List.drop_suffix _ w⟩
  · next hlen =>
    left
    exact ⟨rfl, fun h => hlen (Nat.le_antisymm hle (List.drop_eq_nil_iff.1 h)),
      List.drop_append_of_le_length hle⟩

section Spell

variable {w t u : Text} {f : Flags} {p : Char → Bool}

def spell (p : Char → Bool) (f : Flags) : Nat → Text → Text × Text
  | 0, t => ([], t)
  | _ + 1, [] => ([], [])
  | k + 1, c :: t => if p c then ((spell p f k (f.skip t)).map (c :: ·) id) else ([], c :: t)

theorem boundaryName_eq_spell (f : Flags) (k : Nat) (t : Text) :
    Escape.boundaryName f k t = spell Escape.isBoundaryLetter f k t := by
  induction k generalizing t with
  | zero => rfl
  | succ k ih => cases t <;> simp [Escape.boundaryName, spell, ih, Prod.map]

theorem digits_eq_spell (f : Flags) (k : Nat) (t : Text) :
    Reading.digits f k t = spell Char.isDigit f k t := by
  induction k generalizing t with
  | zero => rfl
  | succ k ih => cases t <;> simp [Reading.digits, spell, ih, Prod.map]

theorem beside_spell (hw : Closing w) (hp : p ')' = false) (h : Extends w t u) {k m : Nat}
    (hk : t.length ≤ k)
    (hm : t.length ≤ m) : Beside (Extends w) (spell p f k t) (spell p f m u) := by
  have hend (k : Nat) : spell p f k w = ([], w) := by
    obtain ⟨v, rfl⟩ := hw.head
    cases k <;> simp [spell, hp]
  have hnil (k : Nat) : spell p f k [] = ([], []) := by cases k <;> rfl
  induction k generalizing m t u with
  | zero =>
    obtain rfl := List.length_eq_zero_iff.1 (Nat.le_zero.1 hk)
    cases h with
    | behind => exact hend m ▸ ⟨rfl, .behind []⟩
    | swallowed => exact hnil m ▸ ⟨rfl, .swallowed⟩
  | succ k ih =>
    cases t with
    | nil =>
      cases h with
      | behind => exact hend m ▸ ⟨rfl, .behind []⟩
      | swallowed => exact hnil m ▸ ⟨rfl, .swallowed⟩
    | cons c t =>
      obtain rfl := h.eq_cons
      obtain ⟨m, rfl⟩ := Nat.exists_eq_succ_of_ne_zero (Nat.ne_zero_of_lt hm)
      rw [spell, spell]
      split
      · have hlen := length_skip_le f t
        have hrest := ih (m := m) ((Extends.behind t).skip hw f)
          (by simp at hk; omega) (by simp at hm; omega)
        exact ⟨congrArg (c :: ·) hrest.1, hrest.2⟩
      · exact ⟨rfl, .behind (c :: t)⟩

end Spell

end Dictation.Pattern
