import Dictation.Proofs.Pattern.Simulation

namespace Dictation.Pattern.Reading

variable {t u v x : Text} {n : Nat} {s e r : Reading} {g : Opened}

theorem simulates_alone (g : Opened) : Simulates fun s s' => s = s'.nest g where
  flags := by
    rintro _ s rfl
    rfl
  node := by
    rintro _ s n rfl hn
    exact (nest_addNode s hn).symm
  switched := by
    rintro _ s f rfl
    rfl
  opened := by
    rintro _ s f rfl
    rfl
  captured := by
    rintro _ s rfl
    rfl
  named := by
    rintro _ s name rfl hname
    rw [nest, List.any_map] at hname
    exact ⟨hname, rfl⟩
  alternative := by
    rintro _ s rfl
    simp only [nest, Inside.shift_nextAlternative]
  repeated := by
    rintro _ s least most lazy rfl r hr
    rw [nest_repeat?] at hr
    obtain ⟨s', hs', rfl⟩ := Option.map_eq_some_iff.1 hr
    exact ⟨s', hs', rfl⟩

theorem carries_closeGroup? (hs : s.stack ≠ []) :
    Carries (fun s s' => s = s'.nest g) (s.nest g).closeGroup? s.closeGroup? := by
  intro r hr
  cases h : s.closeGroup? with
  | none =>
    unfold closeGroup? at h
    split at h
    · exact absurd ‹_› hs
    · cases h
  | some s' =>
    rw [nest_closeGroup? h] at hr
    exact ⟨s', rfl, (Option.some.inj hr).symm⟩

section Runs

/-- Some steps lead from one reading, and what is left there, to another. -/
inductive Reaches : Reading → Text → Reading → Text → Prop
  | refl (s : Reading) (t : Text) : Reaches s t s t
  | step {s s' e : Reading} {c : Char} {t r t' u : Text} (hskip : s.flags.skip t = c :: r)
      (hstep : s.step? c r = some (s', t')) (h : Reaches s' t' e u) : Reaches s t e u

theorem Reaches.suffix (h : Reaches s t e u) : u <:+ t := by
  induction h with
  | refl => exact List.suffix_rfl
  | step hskip hstep _ ih =>
    exact ih.trans ((suffix_of_step? hstep).trans
      ((List.suffix_cons _ _).trans (hskip ▸ skip_suffix _ _)))

/-- A run that begins in a group and ends outside of it comes to the end of the group, by the steps
that are taken alone, and goes on from there. -/
theorem exists_reaches_of_run? (hr : run? n (s.nest g) t = some r) (hstack : r.stack = []) :
    ∃ e u v m s', Reaches s t e u ∧ e.flags.skip u = ')' :: v ∧ e.stack = [] ∧
      (e.nest g).closeGroup? = some s' ∧ run? m s' v = some r := by
  induction n generalizing s t with
  | zero => cases hr
  | succ n ih =>
    rw [run?, show (s.nest g).flags = s.flags from rfl] at hr
    cases ht : s.flags.skip t with
    | nil =>
      rw [ht] at hr
      obtain rfl := Option.some.inj hr
      simp [nest] at hstack
    | cons c t' =>
      rw [ht] at hr
      dsimp only at hr
      obtain ⟨⟨s', t''⟩, hstep, hr⟩ := Option.bind_eq_some_iff.1 hr
      by_cases hc : c = ')' ∧ s.stack = []
      · obtain ⟨rfl, hs⟩ := hc
        obtain ⟨s', hclose, hs'⟩ := Option.map_eq_some_iff.1 hstep
        cases hs'
        exact ⟨s, t, t', n, s', .refl s t, ht, hs, hclose, hr⟩
      · obtain ⟨⟨s₁, _⟩, hstep', rfl, rfl⟩ := (simulates_alone g).step? rfl
          (fun h => carries_closeGroup? fun hs => hc ⟨h, hs⟩) t' _ hstep
        obtain ⟨e, u, v, m, s', h, hrest⟩ := ih hr
        exact ⟨e, u, v, m, s', .step ht hstep' h, hrest⟩

theorem skip_brace (f : Flags) (t : Text) : f.skip ('\x7b' :: t) = '\x7b' :: t := by
  rw [Flags.skip]
  split <;> rfl

/-- No steps lead to the end of a group from a brace that nothing else follows. -/
theorem not_reaches_of_stuck {w : Text} (hw : w.head? = some ')') (hx : s.flags.skip x = [])
    (h : Reaches s ('\x7b' :: (x ++ w)) e u) (hu : e.flags.skip u = w) : False := by
  cases h with
  | refl =>
    rw [skip_brace] at hu
    rw [← hu] at hw
    cases hw
  | step hskip hstep h =>
    rw [skip_brace] at hskip
    cases hskip
    have hpast : Past w _ := past_of_counted? hw hx hstep
    have hle := (hu ▸ skip_suffix e.flags u).trans h.suffix
    exact Nat.lt_irrefl _ (Nat.lt_of_lt_of_le hpast hle.length_le)

/-- The steps that lead to the end of a group read what stands before it as a whole pattern. -/
theorem run?_of_reaches {w : Text} (hw : w.head? = some ')') (h : Reaches s t e u)
    (hu : e.flags.skip u = w) (ht : t = x ++ w) (hn : x.length < n) : run? n s x = some e := by
  induction h generalizing x n with
  | refl s t =>
    obtain ⟨n, rfl⟩ := Nat.exists_eq_succ_of_ne_zero (Nat.ne_zero_of_lt hn)
    subst ht
    have hx : s.flags.skip x = [] := by
      obtain ⟨hpast, -⟩ | heq := skip_append hw s.flags x
      · rw [hu] at hpast
        exact absurd hpast (Nat.lt_irrefl _)
      · rw [hu] at heq
        exact List.self_eq_append_left.1 heq
    rw [run?, hx]
  | @step s s' e c t r t' u hskip hstep h ih =>
    subst ht
    have hle : w <:+ t' := (hu ▸ skip_suffix e.flags u).trans h.suffix
    have hnot : ¬Past w t' := Nat.not_lt.2 hle.length_le
    have hrest : t' <:+ r := suffix_of_step? hstep
    obtain ⟨n, rfl⟩ := Nat.exists_eq_succ_of_ne_zero (Nat.ne_zero_of_lt hn)
    obtain ⟨hpast, -⟩ | heq := skip_append hw s.flags x
    · rw [hskip] at hpast
      exact absurd (Nat.lt_trans (Nat.lt_succ_of_le hrest.length_le) hpast) hnot
    rw [hskip] at heq
    cases hx : s.flags.skip x with
    | nil =>
      rw [hx, List.nil_append] at heq
      exact absurd (heq ▸ Nat.lt_succ_of_le hrest.length_le) hnot
    | cons d y =>
      have hlen := length_skip_le s.flags x
      rw [hx] at heq hlen
      obtain ⟨rfl, rfl⟩ := List.cons.inj heq
      rw [run?, hx]
      dsimp only
      have hread : ∃ y', t' = y' ++ w ∧ s.step? c y = some (s', y') := by
        by_cases hc : c = '\\'
        · subst hc
          obtain (hpast | ⟨q, rfl, hq⟩) | hread := (local_step?_escape hw s).recovers y hstep
          · exact absurd hpast hnot
          · obtain ⟨p, -, hp⟩ := Option.map_eq_some_iff.1 hstep
            obtain rfl : s.addNode _ = s' := congrArg Prod.fst hp
            exact (not_reaches_of_stuck hw (s := s.addNode _) hq h hu).elim
          · exact hread
        · exact ((local_step?_of_ne hw s hc).recovers y hstep).resolve_left hnot
      obtain ⟨y', rfl, hy⟩ := hread
      have hlen' : y'.length ≤ y.length := (suffix_of_step? hy).length_le
      rw [hy, Option.bind_some]
      rw [List.length_cons] at hlen
      exact ih (x := y') hu rfl (by omega)

end Runs

end Dictation.Pattern.Reading
