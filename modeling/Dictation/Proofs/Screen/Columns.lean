import Dictation.Proofs.Character.Table
import Dictation.Screen.Basic

namespace Dictation.Screen

open Character

def widths : Text → Nat
  | [] => 0
  | c :: t => Character.width c + widths t

theorem widths_append (s t : Text) : widths (s ++ t) = widths s + widths t := by
  induction s with
  | nil => exact (Nat.zero_add _).symm
  | cons c s ih => rw [List.cons_append, widths, widths, ih, Nat.add_assoc]

def IsControl (c : Char) : Prop := c < ' ' ∨ '\x7f' ≤ c ∧ c < '\u00a0'

instance (c : Char) : Decidable (IsControl c) := inferInstanceAs (Decidable (_ ∨ _))

def formOf? (c : Char) : Option Form :=
  if c = '\ufe0e' then some .text else if c = '\ufe0f' then some .colourful else none

def selectorOf (t : Text) : Text := (t.take 1).filter fun c => (formOf? c).isSome

/-- How many columns more than its width a character takes with the selector behind it, summed over
a text. -/
def excess : Text → Nat
  | [] => 0
  | c :: t => (columns (c :: selectorOf t) - Character.width c) + excess t

/-- What the columns of a text fall short of its widths. Only an even number of flag letters before
a joiner makes up for it later. -/
def shortfall : Ahead → Nat
  | .joinedFlagEven => 2
  | _ => 0

section Width

variable {c : Char}

theorem one_le_width_of_large (hc : 65536 ≤ c.toNat) (hignorable : defaultIgnorable.mem c = false)
    (hmark : Category.of c ≠ .nonspacingMark) (henclosing : Category.of c ≠ .enclosingMark)
    (hextend : otherGraphemeExtend.mem c = false) : 1 ≤ width c := by
  have hgrapheme : isGraphemeExtend c = false := by
    rw [isGraphemeExtend, hextend, beq_false_of_ne hmark, beq_false_of_ne henclosing]
    rfl
  have hbeyond (d : Char) (hd : d.toNat < 65536) : decide (c ≤ d) = false :=
    decide_eq_false fun h => Nat.not_le.2 (Nat.lt_of_lt_of_le hd hc)
      (UInt32.le_iff_toNat_le.1 (Char.le_def.1 h))
  have hjamo : isJoiningJamo c = false := by
    rw [isJoiningJamo, hbeyond '\u11ff' (by decide), hbeyond '\ud7c6' (by decide),
      hbeyond '\ud7fb' (by decide)]
    simp only [Bool.and_false, Bool.or_self]
  have hsign : isAttachedSign c = false := by
    have hsmall : ∀ d ∈ ['\u0605', '\u070f', '\u0890', '\u0891', '\u08e2', '\ua8fa'],
        d.toNat < 65536 := by simp
    rw [isAttachedSign, List.contains_eq_mem, decide_eq_false_iff_not]
    exact fun h => Nat.not_le.2 (hsmall c h) hc
  have hcontrol : ¬(c < ' ' ∨ '\x7f' ≤ c ∧ c < '\u00a0') := by
    simp only [Char.lt_def, Char.le_def, UInt32.lt_iff_toNat_lt, UInt32.le_iff_toNat_le]
    change ¬(c.toNat < 32 ∨ 127 ≤ c.toNat ∧ c.toNat < 160)
    omega
  rw [width, if_neg (by simpa using hcontrol), hasNoWidth, hignorable, hgrapheme, hjamo, hsign,
    Bool.or_self, Bool.or_self, Bool.or_self, Bool.and_false]
  simp only [Bool.false_eq_true, if_false]
  split_ifs <;> decide

theorem width_ellipsis_le : width '…' ≤ 1 := by
  have hwide : wide.mem '…' = false := by
    rw [wide, CodeSet.mem_ofSteps (i := 1) (y := 4448) (z := 8986) _ _ (by decide) (by decide)]
    · rfl
    all_goals
      rw [String.toList_ofList]
      decide +kernel
  rw [width, if_neg (by decide), if_neg (by decide), if_neg (by decide), if_neg (by decide), hwide]
  by_cases hnone : hasNoWidth '…' = true
  · rw [if_pos hnone]
    exact Nat.zero_le 1
  · rw [if_neg hnone]
    exact Nat.le_refl 1

-- The table of categories is one list of six thousand characters.
set_option maxRecDepth 20000 in
theorem one_le_width_of_isFlagLetter (h : isFlagLetter c = true) : 1 ≤ width c := by
  have hrange : 127462 ≤ c.toNat ∧ c.toNat ≤ 127487 := by simpa [isFlagLetter] using h
  have hkind : Category.of c = .otherSymbol := by
    apply Category.of_eq_of_run (i := 4052) (y := 127462)
      (z := 127491) _ _ (by omega) (by omega) <;>
      rw [Category.runs.table, String.toList_ofList] <;> decide +kernel
  refine one_le_width_of_large (by omega) ?_ (by rw [hkind]; decide) (by rw [hkind]; decide) ?_
  · rw [defaultIgnorable, CodeSet.mem_ofSteps (i := 31) (y := 119163)
      (z := 917504) _ _ (by omega) (by omega)]
    · rfl
    all_goals
      rw [String.toList_ofList]
      decide +kernel
  · rw [otherGraphemeExtend, CodeSet.mem_ofSteps (i := 95) (y := 119155)
      (z := 917536) _ _ (by omega) (by omega)]
    · rfl
    all_goals
      rw [String.toList_ofList]
      decide +kernel

set_option maxRecDepth 20000 in
theorem one_le_width_kirat (h : c.toNat = 0x16D68) : 1 ≤ width c := by
  have hkind : Category.of c = .otherLetter := by
    apply Category.of_eq_of_run (i := 3652) (y := 93507) (z := 93547) _ _ (by omega) (by omega) <;>
      rw [Category.runs.table, String.toList_ofList] <;> decide +kernel
  refine one_le_width_of_large (by omega) ?_ (by rw [hkind]; decide) (by rw [hkind]; decide) ?_
  · rw [defaultIgnorable, CodeSet.mem_ofSteps (i := 27) (y := 65529)
      (z := 113824) _ _ (by omega) (by omega)]
    · rfl
    all_goals
      rw [String.toList_ofList]
      decide +kernel
  · rw [otherGraphemeExtend, CodeSet.mem_ofSteps (i := 89) (y := 73538)
      (z := 94192) _ _ (by omega) (by omega)]
    · rfl
    all_goals
      rw [String.toList_ofList]
      decide +kernel

theorem one_le_width_tifinaghJoiner : 1 ≤ width '\u2d7f' := by
  have hwidth : hasNoWidth '\u2d7f' = false := rfl
  rw [width, if_neg (by decide), if_neg (by decide), if_neg (by decide), if_neg (by decide), hwidth]
  simp only [Bool.false_eq_true, if_false]
  split_ifs <;> decide

end Width

section Place

variable {c : Char} {n : Int} {f : Following}

theorem shortfall_aheadOf (c : Char) : shortfall (aheadOf c).ahead = 0 := by
  unfold aheadOf
  repeat'
    refine iteInduction (motive := fun f : Following => shortfall f.ahead = 0)
      (fun _ => ?_) fun _ => ?_
  all_goals rfl

theorem formOf?_eq_some_iff {form : Form} :
    formOf? c = some form ↔ c = '\ufe0e' ∧ form = .text ∨ c = '\ufe0f' ∧ form = .colourful := by
  unfold formOf?
  split_ifs with htext hcolourful
  · simp [htext, eq_comm]
  · simp [hcolourful, eq_comm]
  · simp [htext, hcolourful]

theorem formOf?_eq_none_iff : formOf? c = none ↔ c ≠ '\ufe0e' ∧ c ≠ '\ufe0f' := by
  unfold formOf?
  split_ifs with htext hcolourful
  · simp [htext]
  · simp [hcolourful]
  · simp [htext, hcolourful]

theorem form_aheadOf (hc : formOf? c = none) : (aheadOf c).form = none := by
  obtain ⟨htext, hcolourful⟩ := formOf?_eq_none_iff.1 hc
  unfold aheadOf
  rw [beq_false_of_ne htext, beq_false_of_ne hcolourful]
  repeat'
    refine iteInduction (motive := fun f : Following => f.form = none) (fun _ => ?_) fun _ => ?_
  all_goals trivial

theorem takesForm_eq_false {form : Form} (hc : formOf? c = some form) : takesForm c = false := by
  have hrange : 65038 ≤ c.toNat ∧ c.toNat ≤ 65039 := by
    obtain ⟨rfl, -⟩ | ⟨rfl, -⟩ := formOf?_eq_some_iff.1 hc <;> decide
  have hemoji : emoji.mem c = false := by
    rw [emoji, CodeSet.mem_ofSteps (i := 179) (y := 12954) (z := 126980) _ _ (by omega) (by omega)]
    · rfl
    all_goals
      rw [String.toList_ofList]
      decide +kernel
  rw [takesForm, hemoji, Bool.false_and, Bool.false_and, Bool.false_and]

theorem joinLigature?_le {l : Ligature} {joiner : Bool}
    (h : joinLigature? c l joiner = some (n, f)) : n + shortfall f.ahead ≤ Character.width c := by
  have hwidth : 0 ≤ (Character.width c : Int) := Int.natCast_nonneg _
  unfold joinLigature? at h
  split at h
  case h_6 =>
    -- the joiner of the letters before and after it
    split_ifs at h with hc
    · rw [eq_of_beq hc]
      cases h
      exact Int.ofNat_le.2 one_le_width_tifinaghJoiner
    · cases h
      exact hwidth
  all_goals
    repeat' split at h
    all_goals cases h
    all_goals
      dsimp only [shortfall, Following.of, Following.plain]
      omega

theorem join?_le {a : Ahead} (h : join? c a = some (n, f)) :
    n + shortfall f.ahead ≤ Character.width c + shortfall a := by
  have hwidth : 0 ≤ (Character.width c : Int) := Int.natCast_nonneg _
  have hflag (h : isFlagLetter c = true) : 1 ≤ (Character.width c : Int) :=
    Int.ofNat_le.2 (one_le_width_of_isFlagLetter h)
  have hkirat (h : (c.toNat == 0x16D68) = true) : 1 ≤ (Character.width c : Int) :=
    Int.ofNat_le.2 (one_le_width_kirat (eq_of_beq h))
  cases a with
  | plain | newline | joinedKeycap => cases h
  | ligature l joiner => exact joinLigature?_le h
  | flagLetter | flagLetters | joined | joinedFlagLetter | joinedFlagOdd | joinedFlagEven |
      tone | emoji | tags | kiratE | kiratAi =>
    rw [join?] at h
    split_ifs at h <;> cases h <;> dsimp only [shortfall, Following.of, Following.plain]
    all_goals grind

theorem form_joinLigature? {l : Ligature} {joiner : Bool}
    (h : joinLigature? c l joiner = some (n, f)) : f.form = none := by
  unfold joinLigature? at h
  repeat' split at h
  all_goals cases h
  all_goals rfl

theorem form_join? {a : Ahead} (h : join? c a = some (n, f)) : f.form = none := by
  cases a with
  | plain | newline | joinedKeycap => cases h
  | ligature l joiner => exact form_joinLigature? h
  | flagLetter | flagLetters | joined | joinedFlagLetter | joinedFlagOdd | joinedFlagEven |
      tone | emoji | tags | kiratE | kiratAi =>
    rw [join?] at h
    split_ifs at h <;> cases h <;> rfl

theorem shortfall_withForm (f : Following) (form : Form) :
    shortfall (f.withForm form).ahead = 0 := by
  unfold Following.withForm
  split
  · next h => rw [h]; rfl
  · next h => rw [h]; rfl
  · next h => rw [h]; rfl
  · rfl

theorem shortfall_withoutForm_le (f : Following) :
    shortfall f.withoutForm.ahead ≤ shortfall f.ahead := by
  unfold Following.withoutForm
  split
  · exact Nat.le_refl _
  · exact Nat.zero_le _

theorem form_withoutForm (f : Following) : f.withoutForm.form = none := by
  unfold Following.withoutForm
  split <;> rfl

theorem form_withForm (f : Following) (form : Form) : (f.withForm form).form = some form := by
  unfold Following.withForm
  split <;> rfl

def joined (c : Char) (next : Following) : Int × Following :=
  match next.ahead with
  | .ligature l joiner =>
    if l ≠ .alef ∧ c == '\u200d' then (0, .of (.ligature l true))
    else if l ≠ .alef ∧ isHiddenMark c then (0, next)
    else (joinLigature? c l joiner).getD (width c, aheadOf c)
  | ahead => (join? c ahead).getD (width c, aheadOf c)

theorem joined_cases (c : Char) (next : Following) :
    ((joined c next).1 = 0 ∧ shortfall (joined c next).2.ahead = 0 ∧
      ((joined c next).2.form = none ∨ (joined c next).2 = next)) ∨
    joined c next = (↑(Character.width c), aheadOf c) ∨
    (∃ l joiner, joinLigature? c l joiner = some (joined c next)) ∨
      join? c next.ahead = some (joined c next) := by
  unfold joined
  have hgetD {j : Option (Int × Following)} (p : Int × Following) :
      j.getD p = p ∨ j = some (j.getD p) := by
    cases j with
    | none => exact .inl rfl
    | some _ => exact .inr rfl
  cases h : next.ahead with
  | ligature l joiner =>
    dsimp only
    split_ifs
    · exact .inl ⟨rfl, rfl, .inl rfl⟩
    · exact .inl ⟨rfl, by rw [h]; rfl, .inr rfl⟩
    · obtain hnone | hsome :=
        hgetD (j := joinLigature? c l joiner) (↑(Character.width c), aheadOf c)
      · exact .inr (.inl hnone)
      · exact .inr (.inr (.inl ⟨l, joiner, hsome⟩))
  | _ =>
    obtain hnone | hsome := hgetD (j := join? c next.ahead) (↑(Character.width c), aheadOf c)
    · rw [h] at hnone
      exact .inr (.inl hnone)
    · rw [h] at hsome
      exact .inr (.inr (.inr hsome))

theorem joined_le (c : Char) (next : Following) :
    (joined c next).1 + shortfall (joined c next).2.ahead ≤ Character.width c +
      shortfall next.ahead := by
  have hwidth : 0 ≤ (Character.width c : Int) := Int.natCast_nonneg _
  obtain ⟨hn, hf, -⟩ | h | ⟨l, joiner, h⟩ | h := joined_cases c next
  · rw [hn, hf]
    omega
  · rw [h, shortfall_aheadOf]
    omega
  · have := joinLigature?_le (n := (joined c next).1) (f := (joined c next).2) h
    omega
  · exact join?_le h

theorem form_joined {next : Following} (hc : formOf? c = none) (hnext : next.form = none) :
    (joined c next).2.form = none := by
  obtain ⟨-, -, h | h⟩ | h | ⟨l, joiner, h⟩ | h := joined_cases c next
  · exact h
  · rw [h, hnext]
  · rw [h]
    exact form_aheadOf hc
  · exact form_joinLigature? h
  · exact form_join? h

theorem place_of_takesForm (next : Following)
    (hform : next.form = some .colourful ∧ takesForm c = true) :
    place c next =
      (if next.ahead = .joined ∨ next.ahead = .joinedKeycap then 0 else 2, .of .emoji) := by
  rw [place, if_pos hform]

theorem place_of_le (next : Following) (hform : ¬(next.form = some .colourful ∧ takesForm c = true))
    (hc : c ≤ '\u00a0') :
    (place c next).1 ≤ 1 ∧ (place c next).2 = aheadOf c ∧ (place c ⟨.plain, next.form⟩).1 = 1 := by
  have hplain : (c == '\r' &&
    (if next.form = some .colourful then Following.withoutForm ⟨.plain, next.form⟩
      else ⟨.plain, next.form⟩) == .of .newline) = false := by
    split_ifs <;> simp [Following.withoutForm, Following.of, Following.plain]
  rw [place, if_neg hform, place, if_neg hform]
  dsimp only
  rw [if_pos hc, if_pos hc, hplain]
  refine ⟨?_, rfl, rfl⟩
  dsimp only
  split_ifs <;> decide

theorem exists_unformed (next : Following) : ∃ f : Following,
    (if next.form = some .colourful then next.withoutForm else next) = f ∧
      shortfall f.ahead ≤ shortfall next.ahead ∧ f.form ≠ some .colourful ∧
      (f.form = some .text ↔ next.form = some .text) := by
  split_ifs with hcolourful
  · have hnone := form_withoutForm next
    refine ⟨_, rfl, shortfall_withoutForm_le next, ?_, ?_⟩ <;> rw [hnone]
    · nofun
    · rw [hcolourful]
      exact ⟨nofun, nofun⟩
  · exact ⟨next, rfl, Nat.le_refl _, hcolourful, Iff.rfl⟩

/-- A character is seen the same whatever is ahead, but for the form that is asked for; or it may
join what is ahead. -/
theorem place_cases (c : Char) (next : Following) :
    ((place c next).1 ≤ (place c ⟨.plain, next.form⟩).1 ∧ shortfall (place c next).2.ahead = 0 ∧
      (place c next).2.form = formOf? c) ∨
    ∃ f : Following, place c next = joined c f ∧ f.form = none ∧
      shortfall f.ahead ≤ shortfall next.ahead ∧ formOf? c = none := by
  -- An emoji that the selector behind it turns into its colourful form.
  by_cases hform : next.form = some .colourful ∧ takesForm c = true
  · have hnone : formOf? c = none := by
      cases h : formOf? c with
      | none => rfl
      | some form => exact absurd (takesForm_eq_false h) (by rw [hform.2]; decide)
    rw [place_of_takesForm next hform, place_of_takesForm ⟨.plain, next.form⟩ hform, hnone]
    refine .inl ⟨?_, rfl, rfl⟩
    dsimp only
    split_ifs <;> simp_all
  by_cases hc : c ≤ '\u00a0'
  · obtain ⟨hle, hahead, hone⟩ := place_of_le next hform hc
    have hnone : formOf? c = none := by
      refine formOf?_eq_none_iff.2 ⟨?_, ?_⟩ <;> rintro rfl <;> exact absurd hc (by decide)
    rw [hone, hahead, hnone]
    exact .inl ⟨hle, shortfall_aheadOf c, form_aheadOf hnone⟩
  -- Any other character is seen without the selector behind it, if that has no say.
  obtain ⟨f, hf, hle, hcolourful, htext⟩ := exists_unformed next
  obtain ⟨g, hg, -, -, htext'⟩ := exists_unformed ⟨.plain, next.form⟩
  rw [place, if_neg hform, place, if_neg hform]
  dsimp only at hg ⊢
  rw [hf, hg, if_neg hc, if_neg hc]
  by_cases hcolourfulChar : c = '\ufe0f'
  · subst hcolourfulChar
    exact .inl ⟨Int.le_refl _, shortfall_withForm _ _, form_withForm _ _⟩
  by_cases htextChar : c = '\ufe0e'
  · subst htextChar
    exact .inl ⟨Int.le_refl _, shortfall_withForm _ _, form_withForm _ _⟩
  have hnone : formOf? c = none := formOf?_eq_none_iff.2 ⟨htextChar, hcolourfulChar⟩
  rw [beq_false_of_ne hcolourfulChar, beq_false_of_ne htextChar, hnone]
  simp only [Bool.false_eq_true, if_false]
  by_cases hnarrow : next.form = some .text ∧ hasNarrowForm c = true
  · rw [if_pos ⟨htext.2 hnarrow.1, hnarrow.2⟩, if_pos ⟨htext'.2 hnarrow.1, hnarrow.2⟩]
    exact .inl ⟨Int.le_refl _, rfl, rfl⟩
  rw [if_neg fun h => hnarrow ⟨htext.1 h.1, h.2⟩]
  -- What is left can only join what is ahead.
  right
  by_cases hnext : f.form = some .text
  · rw [if_pos hnext]
    exact ⟨f.withoutForm, rfl, form_withoutForm f, Nat.le_trans (shortfall_withoutForm_le f) hle,
      trivial⟩
  · rw [if_neg hnext]
    refine ⟨f, rfl, ?_, hle, trivial⟩
    cases h : f.form with
    | none => rfl
    | some form => cases form <;> contradiction

end Place

theorem measure_cons (c : Char) (t : Text) :
    measure (c :: t) = ((measure t).1 + (place c (measure t).2).1, (place c (measure t).2).2) := rfl

theorem form_place (c : Char) (next : Following) : (place c next).2.form = formOf? c := by
  obtain ⟨-, -, h⟩ | ⟨f, h, hf, -, hc⟩ := place_cases c next
  · exact h
  · rw [h, hc]
    exact form_joined hc hf

theorem form_measure (t : Text) : (measure t).2.form = t.head?.bind formOf? := by
  cases t with
  | nil => rfl
  | cons c t => exact form_place c (measure t).2

theorem measure_selectorOf (t : Text) :
    measure (selectorOf t) = (0, ⟨.plain, t.head?.bind formOf?⟩) := by
  cases t with
  | nil => rfl
  | cons c t =>
    rw [selectorOf, List.take_succ_cons, List.take_zero, List.head?_cons, Option.bind_some]
    cases hc : formOf? c with
    | none =>
      rw [List.filter_cons, hc]
      rfl
    | some form => obtain ⟨rfl, rfl⟩ | ⟨rfl, rfl⟩ := formOf?_eq_some_iff.1 hc <;> rfl

theorem columns_cons_selectorOf (c : Char) (t : Text) :
    columns (c :: selectorOf t) = (place c ⟨.plain, (measure t).2.form⟩).1.toNat := by
  rw [columns, measure_cons, measure_selectorOf, form_measure, Int.zero_add]

/-- A character adds its width at most, or what it takes with nothing but the selector behind it. -/
theorem place_measure_le (c : Char) (t : Text) :
    (place c (measure t).2).1 + shortfall (place c (measure t).2).2.ahead ≤
      max (Character.width c) (columns (c :: selectorOf t)) + shortfall (measure t).2.ahead := by
  rw [columns_cons_selectorOf]
  obtain ⟨hle, hahead, -⟩ | ⟨f, h, hf, hle, -⟩ := place_cases c (measure t).2
  · rw [hahead]
    omega
  · rw [h]
    have := joined_le c f
    omega

theorem measure_le (t : Text) :
    (measure t).1 + shortfall (measure t).2.ahead ≤ widths t + excess t := by
  induction t with
  | nil => exact Int.le_refl _
  | cons c t ih =>
    have hplace := place_measure_le c t
    rw [measure_cons, widths, excess]
    dsimp only
    omega

theorem columns_le (t : Text) : columns t ≤ widths t + excess t := by
  have := measure_le t
  rw [columns]
  omega

theorem exists_fitting {width used : Nat} (hused : used < width) (t : Text) :
    ∃ rest, t = fitting width used t ++ rest ∧ used + widths (fitting width used t) < width ∧
      ∀ c ∈ rest.head?, width ≤ used + widths (fitting width used t) + Character.width c := by
  induction t generalizing used with
  | nil => exact ⟨[], rfl, hused, nofun⟩
  | cons c t ih =>
    rw [fitting]
    split_ifs with hfits
    · obtain ⟨rest, ht, hlt, hrest⟩ := ih (Nat.lt_of_succ_le hfits)
      refine ⟨rest, by rw [List.cons_append, ← ht], ?_, ?_⟩
      · rw [widths]
        omega
      · intro d hd
        have := hrest d hd
        rw [widths]
        omega
    · refine ⟨c :: t, rfl, hused, fun d hd => ?_⟩
      obtain rfl := Option.some.inj hd
      rw [widths]
      omega

theorem place_plain {c : Char} (hc : ¬c ≤ '\u00a0') (hselector : formOf? c = none) :
    place c .plain = (↑(Character.width c), aheadOf c) := by
  obtain ⟨htext, hcolourful⟩ := formOf?_eq_none_iff.1 hselector
  rw [place, if_neg (by simp [Following.plain])]
  dsimp only
  rw [if_neg hc, if_neg (by simpa using hcolourful), if_neg (by simpa using htext),
    if_neg (by simp [Following.plain])]
  rfl

theorem columns_singleton_le {c : Char} (hc : ¬IsControl c) (hselector : formOf? c = none) :
    columns [c] ≤ Character.width c := by
  have hmeasure : (measure [c]).1 = 0 + (place c .plain).1 := rfl
  rw [columns, hmeasure, Int.zero_add]
  by_cases hle : c ≤ '\u00a0'
  · have hwidth : Character.width c = 1 := by
      rw [Character.width, if_neg (by simpa [IsControl] using hc), if_pos hle]
    obtain ⟨hone, -⟩ := place_of_le .plain (by simp [Following.plain]) hle
    rw [hwidth]
    exact Int.toNat_le.2 hone
  · rw [place_plain hle hselector]
    exact Nat.le_of_eq (Int.toNat_natCast _)

theorem columns_append_singleton_le {c : Char} (hc : Character.width c ≤ 1) (t : Text) :
    columns (t ++ [c]) ≤ widths t + 1 + excess (t ++ [c]) := by
  have hle := columns_le (t ++ [c])
  have hsum : widths [c] = Character.width c := Nat.add_zero _
  rw [widths_append, hsum] at hle
  omega

theorem truncate_cases (t : Text) (width : Nat) :
    (columns t ≤ width ∧ truncate t width = t) ∨ (width = 0 ∧ truncate t width = []) ∨
    ∃ kept rest, t = kept ++ rest ∧ truncate t width = kept ++ ['…'] ∧ widths kept < width ∧
      ∀ c ∈ rest.head?, width ≤ widths kept + Character.width c := by
  rw [truncate]
  split_ifs with hfits hzero
  · exact .inl ⟨hfits, rfl⟩
  · exact .inr (.inl ⟨hzero, rfl⟩)
  · obtain ⟨rest, ht, hlt, hrest⟩ := exists_fitting (Nat.pos_of_ne_zero hzero) t
    rw [Nat.zero_add] at hlt
    exact .inr (.inr ⟨_, rest, ht, rfl, hlt, fun c hc => by simpa using hrest c hc⟩)

theorem excess_eq_zero {t : Text} (h : ∀ c ∈ t, ¬IsControl c ∧ formOf? c = none) :
    excess t = 0 := by
  induction t with
  | nil => rfl
  | cons c t ih =>
    obtain ⟨⟨hc, hnone⟩, ht⟩ := List.forall_mem_cons.1 h
    have hselector : selectorOf t = [] := by
      refine List.filter_eq_nil_iff.2 fun d hd => ?_
      rw [(ht d (List.mem_of_mem_take hd)).2]
      exact Bool.false_ne_true
    have := columns_singleton_le hc hnone
    rw [excess, hselector, ih ht]
    omega

theorem columns_truncate_le (t : Text) (width : Nat) :
    columns (truncate t width) ≤ width + excess (truncate t width) := by
  obtain ⟨hfits, h⟩ | ⟨-, h⟩ | ⟨kept, rest, -, h, hlt, -⟩ := truncate_cases t width <;> rw [h]
  · exact Nat.le_add_right_of_le hfits
  · exact Nat.zero_le _
  · have := columns_append_singleton_le width_ellipsis_le kept
    omega

/-- A text is cut to what its characters take, each by itself, and to a column for the ellipsis. In
a text they can take more: a control character one column, and an emoji what the selector behind it
adds. Without these the cut text fits. -/
theorem columns_truncate (t : Text) (width : Nat) :
    columns (truncate t width) ≤ width + excess (truncate t width) ∧
    ((∀ c ∈ t, ¬IsControl c ∧ formOf? c = none) → columns (truncate t width) ≤ width) ∧
    ((columns t ≤ width ∧ truncate t width = t) ∨ (width = 0 ∧ truncate t width = []) ∨
      ∃ kept rest, t = kept ++ rest ∧ truncate t width = kept ++ ['…'] ∧ widths kept < width ∧
        ∀ c ∈ rest.head?, width ≤ widths kept + Character.width c) := by
  refine ⟨columns_truncate_le t width, fun hplain => ?_, truncate_cases t width⟩
  obtain ⟨hfits, h⟩ | ⟨-, h⟩ | ⟨kept, rest, ht, h, -⟩ := truncate_cases t width
  · rw [h]
    exact hfits
  · rw [h]
    exact Nat.zero_le _
  · have hkept : ∀ c ∈ kept ++ ['…'], ¬IsControl c ∧ formOf? c = none := by
      intro c hc
      obtain hc | hc := List.mem_append.1 hc
      · exact hplain c (ht ▸ List.mem_append_left rest hc)
      · obtain rfl := List.mem_singleton.1 hc
        exact ⟨by decide, rfl⟩
    have hle := columns_truncate_le t width
    rwa [h, excess_eq_zero hkept, Nat.add_zero, ← h] at hle

theorem columns_truncate_accented :
    (∀ c ∈ ['é', 'b', 'c'], ¬IsControl c ∧ formOf? c = none) ∧
      columns (truncate ['é', 'b', 'c'] 2) ≤ 2 := by
  have hplain : ∀ c ∈ ['é', 'b', 'c'], ¬IsControl c ∧ formOf? c = none := by
    intro c hc
    simp only [List.mem_cons, List.not_mem_nil, or_false] at hc
    obtain rfl | rfl | rfl := hc <;> decide
  exact ⟨hplain, (columns_truncate _ 2).2.1 hplain⟩

/-- Two tabs take two columns, but none by their widths, so that nothing is cut off them for the
ellipsis. -/
theorem not_columns_truncate_le :
    ¬∀ (t : Text) (width : Nat), columns (truncate t width) ≤ width := by
  intro h
  have htab (t : Text) (ht : t.head?.bind formOf? = none) :
      (measure ('\t' :: t)).1 = (measure t).1 + 1 := by
    have hform := (form_measure t).trans ht
    rw [measure_cons, place, if_neg (by simp [hform])]
    rfl
  have hcut : truncate ['\t', '\t'] 1 = ['\t', '\t', '…'] := by decide
  have hlast : (measure ['…']).1 = 0 + ↑(Character.width '…') :=
    congrArg (0 + ·.1) (place_plain (c := '…') (by decide) rfl)
  have hle := h ['\t', '\t'] 1
  rw [hcut, columns, htab _ rfl, htab _ rfl, hlast] at hle
  generalize Character.width '…' = n at hle
  omega

end Dictation.Screen
