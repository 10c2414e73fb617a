import Dictation.Proofs.Pattern.Prefix.Escape
import Dictation.Proofs.Pattern.Suffix.Bracket

namespace Dictation.Pattern

variable {α : Type} {w : Text}

/-- What is left lies within `w`; perhaps none of `w` has been read. -/
def AtEnd (w u : Text) : Prop := u.length ≤ w.length

theorem Local.wanting {R : Text → Option (α × Text)} (h : Local w (AtEnd w) R) :
    Local w (AtEnd w) fun t => if t = [] then none else R t where
  leaves t _ _ hR := by
    split at hR
    · cases hR
    · exact h.leaves t hR
  recovers t _ _ hR := by
    split at hR
    · cases hR
    · cases t with
      | nil => exact .inl (h.le hR)
      | cons c t => exact h.recovers (c :: t) hR

/-- One reader after another that may leave `w`, when the second does not leave what it is given. -/
theorem Local.bind_atEnd {β : Type} {R : Text → Option (α × Text)}
    {K : α → Text → Option (β × Text)} (h : Local w (AtEnd w) R) (hK : ∀ a, Local w (Past w) (K a))
    (hlt : ∀ {a t b u}, K a t = some (b, u) → u.length < t.length) :
    Local w (Past w) fun t => (R t).bind fun x => K x.1 x.2 :=
  h.bind hK fun hu hs => Nat.lt_of_lt_of_le (hlt hs) hu

def Primitive.isPlace : Primitive → Bool
  | place _ => true
  | _ => false

namespace Bracket

open Character (isBlank)

variable {t u r : Text} {f : Flags} {c : Char} {k m : Nat}

def member? (f : Flags) (t : Text) : Option (Primitive × Text) :=
  (primitive f t).filter fun x => !x.1.isPlace

def alone? (f : Flags) : Primitive → Option ReadSet
  | .literal c => single f c
  | .set s w => some ⟨s, 0, w⟩
  | .place _ => none

def span? (f : Flags) : Primitive → Primitive → Option ReadSet
  | .literal a, .literal b =>
    if a ≤ b && (f.unicode || b.toNat < 128) then some ⟨fun c => a ≤ c && c ≤ b, 0, 8⟩ else none
  | _, _ => none

def isHyphen (f : Flags) (t : Text) : Bool :=
  peek f ('-' :: t) == some ']' || peek f ('-' :: t) == some '-'

theorem bind_member? {β : Type} {g : Primitive × Text → Option β}
    (hg : ∀ l t, g (.place l, t) = none) : (member? f t).bind g = (primitive f t).bind g := by
  rw [member?]
  cases primitive f t with
  | none => rfl
  | some x =>
    obtain ⟨p | p | l, t⟩ := x
    · rfl
    · rfl
    · exact (hg l t).symm

def range? (f : Flags) (first : Primitive) : Text → Option (ReadSet × Text)
  | [] => none
  | c :: t =>
    if c = '-' ∧ isHyphen f t = false then
      (member? f (f.skip t)).bind fun x => (span? f first x.1).map (·, x.2)
    else (alone? f first).map (·, c :: t)

theorem item_eq (f : Flags) (t : Text) : item f t = (member? f t).bind fun x =>
  range? f x.1 (f.skip x.2) := by
  have hplace (p : Primitive) (l : Place) (t : Text) :
      (span? f p (.place l)).map (·, t) = none := by cases p <;> rfl
  rw [bind_member? fun l t => by cases f.skip t <;> simp [range?, span?, alone?]]
  refine Option.bind_congr ?_
  rintro ⟨first, t⟩ -
  dsimp only
  cases f.skip t with
  | nil => rfl
  | cons c r =>
    rw [range?, bind_member? (hplace first)]
    by_cases hc : c = '-'
    · subst hc
      cases hr : isHyphen f r with
      | true =>
        rw [if_neg (by simp)]
        refine (if_pos hr).trans ?_
        cases first <;> rfl
      | false =>
        rw [if_pos ⟨rfl, rfl⟩]
        refine (if_neg (Bool.eq_false_iff.1 hr)).trans ?_
        refine Option.bind_congr ?_
        rintro ⟨second, t⟩ -
        cases first <;> cases second <;> first | rfl | simp only [span?]; split <;> rfl
    · simp only [List.cons.injEq, hc, false_and, imp_self, implies_true, if_false]
      cases first <;> rfl

section Items

variable (hw : w.head? = some ')')

include hw

theorem peek_append (f : Flags) (c : Char) (t : Text) : peek f (c :: (t ++ w)) = peek f (c :: t) ∨
    peek f (c :: t) = none ∧ peek f (c :: (t ++ w)) = some ')' := by
  have hhead (t : Text) : (t ++ w).head? = t.head? ∨ t.head? = none ∧
      (t ++ w).head? = some ')' := by
    cases t with
    | nil => exact .inr ⟨rfl, hw⟩
    | cons d t => exact .inl rfl
  unfold peek
  simp only [List.drop_succ_cons, List.drop_zero, dropBlanks_append hw]
  split
  · exact hhead t
  · cases t.dropWhile isBlank with
    | nil =>
      obtain ⟨v, rfl⟩ := List.head?_eq_some_iff.1 hw
      exact .inr ⟨rfl, rfl⟩
    | cons d r =>
      by_cases hd : d = '#'
      · subst hd
        simp only [List.cons_append, dropBlanks_append hw]
        exact hhead _
      · simp only [List.cons_append, List.cons.injEq, hd, false_and, imp_self, implies_true]
        exact .inl rfl

theorem isHyphen_append (f : Flags) (t : Text) : isHyphen f (t ++ w) = isHyphen f t := by
  obtain heq | ⟨hnone, hsome⟩ := peek_append hw f '-' t
  · rw [isHyphen, isHyphen, heq]
  · rw [isHyphen, isHyphen, hnone, hsome]
    rfl

theorem local_member?_cons (f : Flags) (c : Char) : Local w (Past w) fun t =>
  member? f (c :: t) := by
  by_cases hc : c = '\\'
  · subst hc
    refine .cons hw (fun _ => id) (K := fun d t => member? f ('\\' :: d :: t))
      (fun d => ?_) rfl fun _ _ => rfl
    by_cases hd : d = 'b'
    · subst hd
      refine Local.fails.congr fun t => ?_
      change ((Escape.boundary f t).map fun x => (Primitive.place x.1, x.2)).filter _ = none
      cases Escape.boundary f t <;> rfl
    · exact (Escape.local_read?_of_ne hw f hd).filter fun p => !p.isPlace
  · refine (Local.returns (Primitive.literal c)).congr fun t => ?_
    simp only [member?, primitive]
    rfl

theorem local_member? (f : Flags) : Local w (Past w) (member? f) :=
  .cons hw (fun _ => id) (local_member?_cons hw f) rfl fun _ _ => rfl

theorem local_range? (f : Flags) (first : Primitive) : Local w (AtEnd w) (range? f first) := by
  have hspan : Local w (Past w) fun t => (member? f (f.skip t)).bind fun x =>
      (span? f first x.1).map (·, x.2) :=
    (((local_member? hw f).skip hw f).bind_past fun second => .same (span? f first second))
  have hleaves (t : Text) : Leaves t (range? f first t) := by
    cases t with
    | nil => exact leaves_none
    | cons c t =>
      intro a u h
      rw [range?] at h
      split at h
      · exact (hspan.leaves t h).trans (List.suffix_cons c t)
      · exact (Local.same (w := w) (E := AtEnd w) _).leaves (c :: t) h
  refine ⟨hleaves, fun t a u h => ?_⟩
  cases t with
  | nil => exact .inl (hleaves w h).length_le
  | cons c t =>
    rw [List.cons_append, range?, isHyphen_append hw] at h
    rw [range?]
    split at h
    · next hc =>
      rw [if_pos hc]
      exact (hspan.recovers t h).imp_left Nat.le_of_lt
    · next hc =>
      rw [if_neg hc]
      exact (Local.same _).recovers (c :: t) h

theorem local_item_cons (f : Flags) (c : Char) : Local w (AtEnd w) fun t => item f (c :: t) := by
  refine ((local_member?_cons hw f c).bind
    (fun first => (local_range? hw f first).after (trims_skip hw f)
    fun _ => Nat.le_of_lt) fun hu hs => ?_).congr fun t => item_eq f (c :: t)
  exact Nat.le_trans ((local_range? hw f _).le hs)
    (Nat.le_trans (length_skip_le f _) (Nat.le_of_lt hu))

end Items

section Opening

def opened? (f : Flags) (t : Text) : Option ((Bool × Items) × Text) :=
  (opening f t).map fun x => ((x.1, x.2.1), x.2.2)

theorem opening_eq (f : Flags) (t : Text) : opening f t = (opened? f t).map fun x =>
  (x.1.1, x.1.2, x.2) := by
  rw [opened?, Option.map_map]
  cases opening f t <;> rfl

theorem leadingHyphens_fuel {v : Items} (hk : t.length < k) (hm : t.length < m) :
    leadingHyphens f v k t = leadingHyphens f v m t := by
  induction k generalizing m v t with
  | zero => cases hk
  | succ k ih =>
    obtain ⟨m, rfl⟩ := Nat.exists_eq_succ_of_ne_zero (Nat.ne_zero_of_lt hm)
    cases t with
    | nil => rfl
    | cons c t =>
      have hlen := length_skip_le f t
      rw [List.length_cons] at hk hm
      by_cases hc : c = '-'
      · subst hc
        exact ih (by omega) (by omega)
      · simp only [leadingHyphens, List.cons.injEq, hc, false_and, imp_self, implies_true]

def bracket? (f : Flags) (v : Items) (t : Text) : Option (Items × Text) :=
  if v.count = 0 ∧ t.head? = some ']' then
    if f.skip t.tail = [] then none else some (v.add ⟨(· == ']'), 0, 8⟩, f.skip t.tail)
  else some (v, t)

def lead? (f : Flags) (t : Text) : Option (Items × Text) :=
  (leadingHyphens f {} (t.length + 1) t).bind fun x => bracket? f x.1 x.2

theorem leading?_eq (f : Flags) (negated : Bool) (t : Text) :
    leading? f negated t = (lead? f t).map fun x => (negated, x.1, x.2) := by
  rw [leading?, lead?, Option.map_bind]
  refine Option.bind_congr ?_
  rintro ⟨v, t⟩ -
  cases t with
  | nil => simp [bracket?]
  | cons c r =>
    by_cases hc : c = ']'
    · subst hc
      by_cases hv : v.count = 0
      · cases hr : f.skip r <;> simp [bracket?, hv, hr]
      · simp [bracket?, hv]
    · simp [bracket?, hc]

theorem opened?_eq (f : Flags) (t : Text) : opened? f t =
    if (f.skip t).head? = some '^' then
      (lead? f (f.skip (f.skip t).tail)).map fun x => ((true, x.1), x.2)
    else (lead? f (f.skip t)).map fun x => ((false, x.1), x.2) := by
  have hopening : opening f t = if (f.skip t).head? = some '^' then leading? f true
    (f.skip (f.skip t).tail)
      else leading? f false (f.skip t) := by
    unfold opening
    cases ht : f.skip t with
    | nil => rfl
    | cons c r =>
      by_cases hc : c = '^'
      · subst hc
        rfl
      · simp only [List.cons.injEq, hc, false_and, imp_self, implies_true, List.head?_cons,
          Option.some.injEq, if_false]
        rfl
  rw [opened?, hopening]
  split
  · rw [leading?_eq, Option.map_map]
    rfl
  · rw [leading?_eq, Option.map_map]
    rfl

variable (hw : w.head? = some ')')

include hw

theorem local_leadingHyphens (f : Flags) (v : Items) (k : Nat) :
    Local w (AtEnd w) (leadingHyphens f v k) := by
  induction k generalizing v with
  | zero => exact .fails
  | succ k ih =>
    refine .lookFor hw '-' (by decide)
      ((ih (v.add ⟨(· == '-'), 0, 8⟩)).after (trims_skip hw f) fun _ => Nat.le_of_lt)
      (Local.wanting (.returns v)) (fun t => rfl) fun t ht => ?_
    cases t with
    | nil => rfl
    | cons c t =>
      have hc : c ≠ '-' := fun h => ht (congrArg some h)
      simp only [leadingHyphens, List.cons.injEq, hc, false_and, imp_self, implies_true,
        reduceCtorEq, if_false]

theorem local_bracket? (f : Flags) (v : Items) : Local w (AtEnd w) (bracket? f v) := by
  by_cases hv : v.count = 0
  · refine .lookFor hw ']' (by decide)
      ((Local.wanting (.returns (v.add ⟨(· == ']'), 0, 8⟩))).after (trims_skip hw f)
      fun _ => Nat.le_of_lt) (.returns v) (fun t => ?_) fun t ht => ?_
    · exact if_pos ⟨hv, rfl⟩
    · exact if_neg fun h => ht h.2
  · exact (Local.returns v).congr fun t => if_neg fun h => hv h.1

theorem local_lead? (f : Flags) : Local w (AtEnd w) (lead? f) :=
  (Local.fuel (local_leadingHyphens hw f {}) leadingHyphens_fuel).bind (local_bracket? hw f)
    fun hu hs => Nat.le_trans ((local_bracket? hw f _).le hs) hu

theorem local_opened? (f : Flags) : Local w (AtEnd w) (opened? f) := by
  have hcaret : Local w (AtEnd w) fun t =>
      if t.head? = some '^' then (lead? f (f.skip t.tail)).map fun x => ((true, x.1), x.2)
      else (lead? f t).map fun x => ((false, x.1), x.2) :=
    .lookFor hw '^' (by decide)
      (((local_lead? hw f).after (trims_skip hw f) fun _ => Nat.le_of_lt).map (true, ·))
      ((local_lead? hw f).map (false, ·)) (fun t => if_pos rfl) fun t ht => if_neg ht
  exact (hcaret.after (trims_skip hw f) fun _ => Nat.le_of_lt).congr (opened?_eq f)

end Opening

section Names

theorem suffix_of_asciiClass? {x : Option ReadSet × Text} (h : asciiClass? f t = some x) :
    x.2 <:+ t := by
  have hnamed {negated : Bool} {t : Text} (h : named? f negated t = some x) : x.2 <:+ t :=
    List.IsSuffix.trans ⟨[':', ']'], (drop_of_named? h).symm⟩ (List.drop_suffix _ t)
  cases t with
  | nil => cases h
  | cons c t =>
    by_cases hc : c = ':'
    · subst hc
      by_cases ht : t.head? = some '^'
      · obtain ⟨t, rfl⟩ := List.head?_eq_some_iff.1 ht
        have hsuffix : x.2 <:+ t := @hnamed true t h
        exact hsuffix.trans (List.suffix_append [':', '^'] t)
      · rw [asciiClass?_of_ne_caret ht] at h
        exact (hnamed h).trans (List.suffix_cons ':' t)
    · rw [asciiClass?_of_ne hc] at h
      cases h

end Names

section Contents

def operator? (c : Char) : Option Operation :=
  if c = '&' then some .intersection else if c = '-' then some .difference
  else if c = '~' then some .symmetricDifference else none

variable {K K' : List Frame → Items → Text → Option (ReadSet × Text)} {stack : List Frame}
  {v : Items}

def inner (f : Flags) (K : List Frame → Items → Text → Option (ReadSet × Text)) (stack : List Frame)
    (v : Items) (t : Text) : Option (ReadSet × Text) :=
  match asciiClass? f t with
  | some x => x.1.bind fun s => K stack (v.add s) x.2
  | none => (opened? f t).bind fun x => K (.opened x.1.1 v :: stack) x.1.2 x.2

def close (f : Flags) (K : List Frame → Items → Text → Option (ReadSet × Text)) (stack : List Frame)
    (v : Items) (t : Text) : Option (ReadSet × Text) :=
  match combine f stack v.toSet with
  | (s, .opened negated outer :: stack) =>
    (closed? f negated s).bind fun s => if stack.isEmpty then some (s, t)
      else K stack (outer.add s) t
  | _ => none

def part (f : Flags) (K : List Frame → Items → Text → Option (ReadSet × Text)) (stack : List Frame)
    (v : Items) (c : Char) (t : Text) : Option (ReadSet × Text) :=
  if c = '[' then inner f K stack v t
  else if c = ']' then close f K stack v t
  else match if t.head? = some c then operator? c else none with
    | some o => K (.operation o (combine f stack v.toSet).1 :: (combine f stack v.toSet).2)
      {} t.tail
    | none => (item f (c :: t)).bind fun x => K stack (v.add x.1) x.2

theorem contents_of_skip_nil (ht : f.skip t = []) : contents f k stack v t = none := by
  cases k <;> simp [contents, ht]

theorem contents_of_skip_cons (ht : f.skip t = c :: r) :
    contents f (k + 1) stack v t = part f (contents f k) stack v c r := by
  unfold contents part
  rw [ht]
  by_cases hopen : c = '['
  · subst hopen
    simp only [if_true, inner, opening_eq]
    cases asciiClass? f r with
    | none => simp only [Option.bind_map]; rfl
    | some x => obtain ⟨s | s, t⟩ := x <;> rfl
  by_cases hclose : c = ']'
  · subst hclose
    rfl
  rw [if_neg hopen, if_neg hclose]
  obtain _ | ⟨d, r⟩ := r
  · simp only [List.cons.injEq, hopen, hclose, false_and, imp_self, implies_true]
    rfl
  by_cases hand : c = '&' ∧ d = '&'
  · obtain ⟨rfl, rfl⟩ := hand
    rfl
  by_cases hminus : c = '-' ∧ d = '-'
  · obtain ⟨rfl, rfl⟩ := hminus
    rfl
  by_cases htilde : c = '~' ∧ d = '~'
  · obtain ⟨rfl, rfl⟩ := htilde
    rfl
  have hoperator : (if (d :: r).head? = some c then operator? c else none) = none := by
    split
    · next hcd =>
      obtain rfl := Option.some.inj hcd
      simp only [and_self] at hand hminus htilde
      rw [operator?, if_neg hand, if_neg hminus, if_neg htilde]
    · rfl
  simp only [hoperator, List.cons.injEq, hopen, hclose, ← and_assoc, hand, hminus, htilde,
    false_and, imp_self, implies_true]

theorem part_congr (h : ∀ stack v u, u.length ≤ t.length → K stack v u = K' stack v u) :
    part f K stack v c t = part f K' stack v c t := by
  unfold part
  split
  · unfold inner
    split
    · next x hx =>
      refine Option.bind_congr fun s _ => h _ _ _ (suffix_of_asciiClass? hx).length_le
    · refine Option.bind_congr ?_
      rintro ⟨x, u⟩ hx
      exact h _ _ _ ((local_opened? (w := [')']) rfl f).le hx)
  · split
    · unfold close
      split
      · refine Option.bind_congr fun s _ => ?_
        rw [h _ _ _ (Nat.le_refl _)]
      · rfl
    · split
      · exact h _ _ _ (by simp)
      · refine Option.bind_congr ?_
        rintro ⟨s, u⟩ hs
        exact h _ _ _ ((local_item_cons (w := [')']) rfl f c).le hs)

theorem contents_fuel (hk : t.length < k) (hm : t.length < m) :
    contents f k stack v t = contents f m stack v t := by
  induction k generalizing m stack v t with
  | zero => cases hk
  | succ k ih =>
    obtain ⟨m, rfl⟩ := Nat.exists_eq_succ_of_ne_zero (Nat.ne_zero_of_lt hm)
    have hlen := length_skip_le f t
    cases ht : f.skip t with
    | nil => rw [contents_of_skip_nil ht, contents_of_skip_nil ht]
    | cons c r =>
      rw [ht, List.length_cons] at hlen
      rw [contents_of_skip_cons ht, contents_of_skip_cons ht]
      exact part_congr fun stack v u hu => ih (by omega) (by omega)

/-- What reads the rest of a class reads at least the bracket that closes it, and nothing of what
stands behind. -/
structure Closes (w : Text) (K : List Frame → Items → Text → Option (ReadSet × Text)) : Prop where
  reads : ∀ stack v, Local w (Past w) (K stack v)
  lt : ∀ {stack v t s u}, K stack v t = some (s, u) → u.length < t.length

theorem Closes.close (hK : Closes w K) : Local w (Past w) (close f K stack v) := by
  unfold Bracket.close
  generalize combine f stack v.toSet = p
  obtain ⟨s, _ | ⟨_ | _, stack⟩⟩ := p
  · exact .fails
  · refine .choose _ fun s => ?_
    exact .ite (fun _ => .returns s) fun _ => hK.reads _ _
  · exact .fails

variable (hw : w.head? = some ')')

include hw

theorem Closes.inner (hK : Closes w K) : Local w (Past w) (inner f K stack v) := by
  have hopened := (local_opened? hw f).bind_atEnd (fun x => hK.reads (.opened x.1 v :: stack) x.2)
    hK.lt
  have hnamed (x : Option ReadSet × Text) : Local w (Past w) fun t => x.1.bind fun s =>
      K stack (v.add s) t :=
    .choose x.1 fun s => hK.reads stack (v.add s)
  constructor
  · intro t s u h
    unfold Bracket.inner at h
    split at h
    · next x hx => exact ((hnamed x).leaves x.2 h).trans (suffix_of_asciiClass? hx)
    · exact hopened.leaves t h
  · intro t s u h
    unfold Bracket.inner at h ⊢
    obtain heq | ⟨-, -, x, hx, hpast⟩ := asciiClass?_cases hw f t
    · rw [heq] at h
      cases hx : asciiClass? f t with
      | none =>
        rw [hx] at h
        exact hopened.recovers t h
      | some x =>
        rw [hx] at h
        exact (hnamed x).recovers x.2 h
    · rw [hx] at h
      exact .inl (Nat.lt_of_le_of_lt ((hnamed x).le h) hpast)

theorem Closes.part (hK : Closes w K) : Local w (Past w) (part f K stack v c) := by
  have hitem := (local_item_cons hw f c).bind_atEnd (fun s => hK.reads stack (v.add s)) hK.lt
  refine .ite (fun _ => hK.inner hw) fun _ => .ite (fun _ => hK.close) fun _ => ?_
  cases ho : operator? c with
  | none => exact hitem.congr fun t => by simp only [ite_self]
  | some o =>
    refine .lookFor hw c ?_ (hK.reads (.operation o (combine f stack v.toSet).1 ::
      (combine f stack v.toSet).2) {}) hitem (fun t => ?_) fun t ht => ?_
    · rintro rfl
      cases ho
    · simp only [List.head?_cons, if_true, List.tail_cons]
    · simp only [if_neg ht]

theorem closes_contents (f : Flags) (k : Nat) : Closes w (contents f k) := by
  induction k with
  | zero => exact ⟨fun _ _ => .fails, nofun⟩
  | succ k ih =>
    refine ⟨fun stack v => .skip_cons hw f (fun c => ih.part hw) (fun t => contents_of_skip_nil)
      fun t c r => contents_of_skip_cons, ?_⟩
    intro stack v t s u h
    have hlen := length_skip_le f t
    cases ht : f.skip t with
    | nil =>
      rw [contents_of_skip_nil ht] at h
      cases h
    | cons c r =>
      rw [ht] at hlen
      rw [contents_of_skip_cons ht] at h
      exact Nat.lt_of_lt_of_le (Nat.lt_succ_of_le ((ih.part hw).le h)) hlen

theorem local_read? (f : Flags) : Local w (Past w) (read? f) := by
  have hcontents (x : Bool × Items) : Local w (Past w) fun t =>
      contents f (t.length + 1) [.opened x.1 {}] x.2 t :=
    .fuel (fun k => (closes_contents hw f k).reads _ _) contents_fuel
  refine ((local_opened? hw f).bind_atEnd hcontents (closes_contents hw f _).lt).congr fun t => ?_
  rw [read?, opening_eq, Option.bind_map]
  refine Option.bind_congr ?_
  rintro ⟨x, u⟩ hx
  have hlen : u.length ≤ t.length := (local_opened? hw f).le hx
  exact contents_fuel (Nat.lt_succ_of_le hlen) (Nat.lt_succ_self _)

end Contents

end Bracket

end Dictation.Pattern
