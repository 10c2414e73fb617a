import Dictation.Proofs.Pattern.Prefix.Bracket
import Dictation.Proofs.Pattern.Nested

namespace Dictation.Pattern.Reading

open Character (isBlank)

variable {w t u : Text} {f : Flags} {s s' : Reading}

section Groups

def special? (s : Reading) (t : Text) : Option (Reading × Text) :=
  if t.head? = some '=' ∨ t.head? = some '!' then none
  else if t.head? = some 'P' then if t.tail.head? = some '<' then s.openNamed? t.tail.tail else none
  else if t.head? = some '<' then
    if t.tail.head? = some '=' ∨ t.tail.head? = some '!' then none else s.openNamed? t.tail
  else s.switch? t

theorem group?_of_ne_question (ht : (s.flags.skip t).head? ≠ some '?') :
    s.group? t = some (s.openCapture, s.flags.skip t) := by
  unfold group?
  cases h : s.flags.skip t with
  | nil => rfl
  | cons c u =>
    have hc : c ≠ '?' := fun hc => ht (by rw [h, hc]; rfl)
    simp only [List.cons.injEq, hc, false_and, imp_self, implies_true]

theorem group?_of_question (ht : s.flags.skip t = '?' :: u) : s.group? t = s.special? u := by
  unfold group?
  rw [ht]
  obtain _ | ⟨d, u⟩ := u
  · rfl
  by_cases hlook : d = '=' ∨ d = '!'
  · obtain rfl | rfl := hlook <;> rfl
  rw [not_or] at hlook
  by_cases hname : d = 'P'
  · subst hname
    obtain _ | ⟨e, u⟩ := u
    · rfl
    by_cases he : e = '<'
    · subst he
      rfl
    · simp [special?, he, readFlags, Flags.switch?]
  by_cases hangle : d = '<'
  · subst hangle
    obtain _ | ⟨e, u⟩ := u
    · rfl
    by_cases hbehind : e = '=' ∨ e = '!'
    · obtain rfl | rfl := hbehind <;> rfl
    · rw [not_or] at hbehind
      simp [special?, hbehind]
  simp [special?, switch?, hlook, hname, hangle]

def flags? (t : Text) (seen : List Char) (lastMinus : Option Bool) (f : Flags) :
    Option ((Bool × Flags × List Char) × Text) :=
  (readFlags t seen lastMinus f).map fun x => ((x.1, x.2.1, x.2.2.1), x.2.2.2)

theorem flags?_cons (c : Char) (t : Text) (seen : List Char) (lastMinus : Option Bool) (f : Flags) :
    flags? (c :: t) seen lastMinus f =
      if c = ':' ∨ c = ')' then if lastMinus = some true then none
        else some ((c == ':', f, seen), t)
      else if seen.contains c then none
      else if c = '-' then flags? t (c :: seen) (some true) f
      else (f.switch? c (!seen.contains '-')).bind fun f =>
        flags? t (c :: seen) (some false) f := by
  unfold flags?
  rw [readFlags]
  simp only [apply_ite (Option.map _), Option.map_bind, Bool.or_eq_true, decide_eq_true_eq,
    beq_iff_eq]
  rfl

def switched? (s : Reading) (x : Bool × Flags × List Char) : Option Reading :=
  if x.1 then some (s.openGroup none x.2.1)
  else if x.2.2.isEmpty then none
  else some { s with flags := x.2.1, inside := s.inside.add .flags }

theorem switch?_eq (s : Reading) (t : Text) :
    s.switch? t = (flags? t [] none s.flags).bind fun x => (s.switched? x.1).map (·, x.2) := by
  rw [switch?, flags?, Option.bind_map]
  refine Option.bind_congr ?_
  rintro ⟨isGroup, flags, seen, t⟩ -
  cases isGroup <;> cases seen <;> rfl

variable (hw : w.head? = some ')')

theorem local_groupName? (w : Text) : Local w (Past w) groupName? where
  leaves t name u h := by
    obtain ⟨d, hdrop⟩ := drop_of_groupName? h
    exact List.IsSuffix.trans ⟨[d], hdrop.symm⟩ (List.drop_suffix _ t)
  recovers t name u h := by
    obtain heq | ⟨-, hpast⟩ := groupName?_cases w t
    · rw [heq] at h
      obtain ⟨x, hx, h⟩ := Option.map_eq_some_iff.1 h
      cases h
      exact .inr ⟨x.2, rfl, hx⟩
    · exact .inl (hpast name u h)

theorem local_openNamed? (w : Text) (s : Reading) : Local w (Past w) s.openNamed? := by
  refine ((local_groupName? w).bind_past fun name => .ite (p := s.names.any (·.1 == name) = true)
    (fun _ => .fails) fun _ =>
      .returns { s.openCapture with names := (name, s.groups + 1) :: s.names }).congr fun t => rfl

include hw

theorem local_flags? (seen : List Char) (lastMinus : Option Bool) (f : Flags) :
    Local w (Past w) fun t => flags? t seen lastMinus f where
  leaves t := by
    induction t generalizing seen lastMinus f with
    | nil => exact leaves_none
    | cons c t ih =>
      intro x u h
      rw [flags?_cons] at h
      split at h
      · split at h
        · cases h
        · cases h
          exact List.suffix_cons c t
      · split at h
        · cases h
        · split at h
          · exact (ih _ _ _ h).trans (List.suffix_cons c t)
          · obtain ⟨g, -, h⟩ := Option.bind_eq_some_iff.1 h
            exact (ih _ _ _ h).trans (List.suffix_cons c t)
  recovers t := by
    induction t generalizing seen lastMinus f with
    | nil =>
      intro x u h
      obtain ⟨v, rfl⟩ := List.head?_eq_some_iff.1 hw
      rw [List.nil_append, flags?_cons, if_pos (.inr rfl)] at h
      split at h
      · cases h
      · cases h
        exact .inl (Nat.lt_succ_self _)
    | cons c t ih =>
      intro x u h
      rw [List.cons_append, flags?_cons] at h
      rw [flags?_cons]
      by_cases hend : c = ':' ∨ c = ')'
      · rw [if_pos hend] at h ⊢
        exact (Local.ite (fun _ => .fails) fun _ => .returns _).recovers t h
      rw [if_neg hend] at h ⊢
      by_cases hseen : seen.contains c = true
      · rw [if_pos hseen] at h
        cases h
      rw [if_neg hseen] at h ⊢
      by_cases hminus : c = '-'
      · rw [if_pos hminus] at h ⊢
        exact ih _ _ _ h
      · rw [if_neg hminus] at h ⊢
        obtain ⟨g, hg, h⟩ := Option.bind_eq_some_iff.1 h
        rw [hg]
        exact ih _ _ _ h

theorem local_switch? (s : Reading) : Local w (Past w) s.switch? :=
  ((local_flags? hw [] none s.flags).bind_past fun x => .same (s.switched? x)).congr s.switch?_eq

theorem local_special? (s : Reading) : Local w (Past w) s.special? := by
  have hnamed : Local w (Past w) s.openNamed? := local_openNamed? w s
  have hpython : Local w (Past w) fun t =>
      if t.head? = some '<' then s.openNamed? t.tail else none :=
    .lookFor hw '<' (by decide) hnamed .fails (fun t => if_pos rfl) fun t ht => if_neg ht
  have hlook {S : Text → Option (Reading × Text)} (hS : Local w (Past w) S) :
      Local w (Past w) fun t => if t.head? = some '=' ∨ t.head? = some '!' then none else S t := by
    refine .look hw (p := fun c => c == '=' || c == '!') rfl (fun _ => .fails) hS (fun c t hc => ?_)
      fun t ht => ?_
    · exact if_pos (by simpa using hc)
    · refine if_neg fun h => ?_
      obtain h | h := h <;> cases ht _ h
  refine hlook (.lookFor hw 'P' (by decide) hpython (.lookFor hw '<' (by decide) (hlook hnamed)
    (local_switch? hw s) (fun t => if_pos rfl) fun t ht => if_neg ht) (fun t => if_pos rfl)
    fun t ht => if_neg ht)

theorem local_group? (s : Reading) : Local w (Past w) s.group? :=
  .skip_lookFor hw s.flags '?' (by decide) (local_special? hw s) (.returns s.openCapture)
    (fun _ _ => group?_of_question) fun _ => group?_of_ne_question

end Groups

section Counts

def bounds? (s : Reading) (t : Text) : Option (Reading × Text) :=
  (some (count? s.flags t)).bind fun x =>
    if x.2.head? = some ',' then s.counts? x.1 x.2.tail
    else if x.2.head? = some '\x7d' then x.1.bind fun n => counted?.close s n (some n) x.2.tail
      else none

theorem counted?_eq (s : Reading) (t : Text) : s.counted? t = s.bounds? (s.flags.skip t) := by
  rw [counted?, bounds?, Option.bind_some]
  generalize count? s.flags (s.flags.skip t) = x
  obtain ⟨least, _ | ⟨c, t⟩⟩ := x
  · rfl
  by_cases hcomma : c = ','
  · subst hcomma
    rfl
  by_cases hbrace : c = '\x7d'
  · subst hbrace
    rfl
  simp only [Prod.mk.injEq, List.cons.injEq, hcomma, hbrace, false_and, and_false, imp_self,
    implies_true, List.head?_cons, Option.some.injEq, if_false]

variable (hw : w.head? = some ')')

include hw

theorem local_count? (f : Flags) : Local w (Past w) fun t => some (count? f t) := by
  have hdigits : Local w (Past w) fun t => some (digits f (t.length + 1) t) := by
    refine (Local.fuel (local_spell hw (p := Char.isDigit) rfl f)
      fun hk hm => congrArg some (spell_fuel (Nat.le_of_lt hk) (Nat.le_of_lt hm))).congr fun t => ?_
    rw [digits_eq_spell]
  have hblank := trims_dropBlanks hw
  have htrims := hblank.comp ((trims_skip hw f).comp hblank)
  refine ((hdigits.after hblank fun _ => id).bind_past fun ds => (Local.returns
    (if ds.isEmpty || Nat.pow 2 32 ≤ ds.foldl (fun n c => 10 * n + (c.toNat - 48)) 0 then none
      else some (ds.foldl (fun n c => 10 * n + (c.toNat - 48)) 0))).after htrims
        fun _ => id).congr fun t => ?_
  have hlen : (t.dropWhile isBlank).length ≤ t.length := List.length_dropWhile_le _ _
  rw [count?, digits_eq_spell, spell_fuel (m := (t.dropWhile isBlank).length + 1)
    (by omega) (by omega), ← digits_eq_spell]
  rfl

theorem local_uncounted? (s : Reading) (least : Nat) (most : Option Nat) :
    Local w (Past w) (s.uncounted? least most) := by
  refine .lookFor hw '?' (by decide) (.same (s.repeat? least most true))
    (.same (s.repeat? least most false)) (fun t => rfl) fun t ht => ?_
  unfold uncounted?
  split
  · exact absurd rfl ht
  · rfl

theorem local_close (s : Reading) (least : Nat) (most : Option Nat) :
    Local w (Past w) (counted?.close s least most) :=
  (local_uncounted? hw s least most).skip hw s.flags

theorem local_counts? (s : Reading) (least : Option Nat) : Local w (Past w) (s.counts? least) := by
  have hmost (most : Option Nat) : Local w (Past w) fun t => if t.head? = some '\x7d' then
      least.bind fun m => most.bind fun n => if m ≤ n then counted?.close s m (some n) t.tail
        else none else none :=
    .lookFor hw '\x7d' (by decide) (.choose least fun m => .choose most fun n =>
      .ite (fun _ => local_close hw s m (some n)) fun _ => .fails) .fails (fun t =>
        if_pos rfl) fun t ht => if_neg ht
  refine .skip_lookFor hw s.flags '\x7d'
    (by decide) (.choose least fun n => local_close hw s n none)
    ((local_count? hw s.flags).bind_past hmost) (fun t r ht => ?_) fun t ht => ?_
  · rw [counts?, ht]
    rfl
  · rw [counts?, Option.bind_some]
    split
    · next r hr => exact absurd (congrArg List.head? hr) ht
    · split
      · next hcount =>
        rw [hcount]
        rfl
      · next hcount =>
        refine (if_neg fun hhead => ?_).symm
        obtain ⟨r, hr⟩ := List.head?_eq_some_iff.1 hhead
        exact hcount _ r (Prod.ext rfl hr)

theorem local_bounds? (s : Reading) : Local w (Past w) s.bounds? := by
  have hleast (least : Option Nat) : Local w (Past w) fun t =>
      if t.head? = some ',' then s.counts? least t.tail
      else if t.head? = some '\x7d' then least.bind fun n => counted?.close s n (some n) t.tail
        else none :=
    .lookFor hw ',' (by decide) (local_counts? hw s least) (.lookFor hw '\x7d' (by decide)
      (.choose least fun n => local_close hw s n (some n)) .fails (fun t => if_pos rfl) fun t ht =>
        if_neg ht)
      (fun t => if_pos rfl) fun t ht => if_neg ht
  exact (local_count? hw s.flags).bind_past hleast

theorem local_counted? (s : Reading) : Local w (Past w) s.counted? :=
  ((local_bounds? hw s).skip hw s.flags).congr s.counted?_eq

/-- There is no count in front of `w` where a brace is followed by nothing but blanks and comments.
-/
theorem past_of_counted? (hu : s.flags.skip u = []) (h : s.counted? (u ++ w) = some (s', t)) :
    Past w t := by
  rw [counted?_eq] at h
  obtain ⟨hpast, -⟩ | heq := skip_append hw s.flags u
  · exact Nat.lt_of_le_of_lt ((local_bounds? hw s).le h) hpast
  · obtain ⟨v, rfl⟩ := List.head?_eq_some_iff.1 hw
    have hskip (f : Flags) : f.skip (')' :: v) = ')' :: v := by
      rw [Flags.skip]
      split <;> rfl
    have hcount : count? s.flags (')' :: v) = (none, ')' :: v) := by
      simp [count?, digits, hskip, Character.isBlank]
    rw [heq, hu, List.nil_append, bounds?, hcount] at h
    cases h

end Counts

section Steps

variable (hw : w.head? = some ')')

include hw

theorem local_step?_of_ne (s : Reading) {c : Char} (hc : c ≠ '\\') :
    Local w (Past w) (s.step? c) := by
  have hrepeat (least : Nat) (most : Option Nat) := local_uncounted? hw s least most
  have hnode (n : Node) : Local w (Past w) fun t => some (s.addNode n, t) := .returns _
  by_cases hopen : c = '('
  · exact hopen ▸ local_group? hw s
  by_cases hclose : c = ')'
  · exact hclose ▸ .same s.closeGroup?
  by_cases hbar : c = '|'
  · exact hbar ▸ .returns { s with inside := s.inside.nextAlternative }
  by_cases hbracket : c = '['
  · exact hbracket ▸ (Bracket.local_read? hw s.flags).map fun r =>
      s.addNode ⟨.one r.set, r.depth, r.weight⟩
  by_cases hquestion : c = '?'
  · exact hquestion ▸ hrepeat 0 (some 1)
  by_cases hstar : c = '*'
  · exact hstar ▸ hrepeat 0 none
  by_cases hplus : c = '+'
  · exact hplus ▸ hrepeat 1 none
  by_cases hbrace : c = '\x7b'
  · exact hbrace ▸ local_counted? hw s
  by_cases hdot : c = '.'
  · exact hdot ▸ .made s.flags.dot? fun d => s.addNode ⟨.one d, 0, 600⟩
  by_cases hcaret : c = '^'
  · exact hcaret ▸ hnode ⟨.place s.flags.caretPlace, 0, 32⟩
  by_cases hdollar : c = '$'
  · exact hdollar ▸ hnode ⟨.place s.flags.dollarPlace, 0, 32⟩
  exact (hnode (literal s.flags c)).congr fun t => by simp [step?, *]

/-- A step that takes an escape may leave a brace that no step can take in front of `w`. -/
theorem local_step?_escape (s : Reading) : Local w (Stuck s.flags w) (s.step? '\\') :=
  (Escape.local_read? hw s.flags).map fun p => s.addNode (primitive s.flags p)

end Steps

theorem suffix_of_step? {c : Char} (h : s.step? c t = some (s', u)) : u <:+ t := by
  by_cases hc : c = '\\'
  · subst hc
    exact (local_step?_escape (w := [')']) rfl s).leaves t h
  · exact (local_step?_of_ne (w := [')']) rfl s hc).leaves t h

end Dictation.Pattern.Reading
