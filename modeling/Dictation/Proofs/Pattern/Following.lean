import Dictation.Proofs.Pattern.Matching

namespace Dictation.Pattern

variable {p q k : Pattern} {f : CharSet} {x y u v w : Text} {greedy : Bool}

structure Capture where
  index : Nat
  before : Text
  text : Text

def Capture.span (c : Capture) : Nat × Nat × Nat :=
  (c.index, c.before.length, (c.before ++ c.text).length)

def goal (k : Pattern) (t : Text) : Positions := reach t.length (k.locate t) (.all t.length)

theorem mem_goal_iff : (k.goal (x ++ y)).mem x.length = true ↔ Fits k x y :=
  mem_starts_iff.trans startsAt_append_iff

def route (p k : Pattern) (t : Text) (s : Progress) : Progress :=
  follow t.length (plan t.length (p.locate t) (k.goal t)) s

/-- After `x`, with `k` as the rest of the pattern, `p` matches `u` at the start of `u ++ v` and
takes just that, with these captures, the latest first. -/
structure Takes (p k : Pattern) (x u v : Text) (captures : List Capture) : Prop where
  matched : Matches p x u v
  route_eq : ∀ groups, p.route k (x ++ u ++ v) ⟨x.length, groups⟩ =
    ⟨(x ++ u).length, captures.map Capture.span ++ groups⟩
  inside : ∀ c ∈ captures, c.before ++ c.text <+: x ++ u ++ v

section Steps

variable {cs ds : List Capture}

theorem Takes.fits (hp : Takes p k x u v cs) (hk : Fits k (x ++ u) v) :
    Fits (.seq p k) x (u ++ v) :=
  fits_seq_iff.2 ⟨u, v, rfl, hp.matched, hk⟩

theorem takes_one {c : Char} (hc : f c = true) : Takes (.one f) k x [c] v [] where
  matched := matches_one_iff.2 ⟨c, rfl, hc⟩
  route_eq groups := by
    rw [List.length_append]
    rfl
  inside := by simp

theorem takes_char (c : Char) : Takes (.one (· == c)) k x [c] v [] := takes_one (beq_self_eq_true c)

theorem takes_place {l : Place} (hl : l.holds x.getLast? v.head? = true) :
    Takes (.place l) k x [] v [] where
  matched := (matches_place_iff l).2 ⟨rfl, hl⟩
  route_eq groups := by
    rw [List.append_nil]
    rfl
  inside := by simp

theorem Takes.seq (hp : Takes p (.seq q k) x u (v ++ w) cs) (hq : Takes q k (x ++ u) v w ds) :
    Takes (.seq p q) k x (u ++ v) w (ds ++ cs) where
  matched := matches_seq_iff.2 ⟨u, v, rfl, hp.matched, hq.matched⟩
  route_eq groups := by
    have hmid := hp.route_eq groups
    have hend := hq.route_eq (cs.map Capture.span ++ groups)
    rw [List.append_assoc _ v w, ← hmid] at hend
    rw [← List.append_assoc x, List.append_assoc _ v w, List.map_append,
      List.append_assoc (ds.map _)]
    exact hend
  inside := by
    rw [List.forall_mem_append, ← List.append_assoc x]
    refine ⟨hq.inside, ?_⟩
    rw [List.append_assoc _ v w]
    exact hp.inside

theorem Takes.group (index : Nat) (hp : Takes p k x u v cs) :
    Takes (.group index p) k x u v (⟨index, x, u⟩ :: cs) where
  matched := matches_group_iff.2 hp.matched
  route_eq groups := congrArg (·.record index x.length) (hp.route_eq groups)
  inside := List.forall_mem_cons.2 ⟨List.prefix_append _ _, hp.inside⟩

theorem Takes.altLeft (hp : Takes p k x u v cs) (hk : Fits k (x ++ u) v) :
    Takes (.alt p q) k x u v cs where
  matched := matches_alt_iff.2 (.inl hp.matched)
  route_eq groups := by
    have hfirst : (goal (.seq p k) (x ++ u ++ v)).mem x.length = true := by
      rw [List.append_assoc]
      exact mem_goal_iff.2 (hp.fits hk)
    exact (if_pos hfirst).trans (hp.route_eq groups)
  inside := hp.inside

theorem Takes.altRight (hq : Takes q k x u v cs) (hno : ¬Fits (.seq p k) x (u ++ v)) :
    Takes (.alt p q) k x u v cs where
  matched := matches_alt_iff.2 (.inr hq.matched)
  route_eq groups := by
    have hfirst : ¬(goal (.seq p k) (x ++ u ++ v)).mem x.length = true := by
      rw [List.append_assoc]
      exact fun h => hno (mem_goal_iff.1 h)
    exact (if_neg hfirst).trans (hq.route_eq groups)
  inside := hq.inside

theorem Takes.optSome (hp : Takes p k x u v cs) (hk : Fits k (x ++ u) v) :
    Takes (.opt true p) k x u v cs where
  matched := matches_opt_iff.2 (.inr hp.matched)
  route_eq groups := by
    have hinside : (goal (.seq p k) (x ++ u ++ v)).mem x.length = true := by
      rw [List.append_assoc]
      exact mem_goal_iff.2 (hp.fits hk)
    exact (if_pos hinside).trans (hp.route_eq groups)
  inside := hp.inside

theorem takes_opt_none (hno : ¬Fits (.seq p k) x v) : Takes (.opt true p) k x [] v [] where
  matched := matches_opt_iff.2 (.inl rfl)
  route_eq groups := by
    rw [List.append_nil]
    exact if_neg fun h => hno (mem_goal_iff.1 h)
  inside := by simp

theorem Takes.assoc {r : Pattern} (h : Takes (.seq (.seq p q) r) k x u v cs) :
    Takes (.seq p (.seq q r)) k x u v cs where
  matched := by
    obtain ⟨j, hpq, hr⟩ := leads_seq_iff.1 h.matched
    obtain ⟨i, hp, hq⟩ := leads_seq_iff.1 hpq
    exact .seq hp (.seq hq hr)
  route_eq := h.route_eq
  inside := h.inside

end Steps

section Repetition

theorem repeatWhile_advance {test : Nat → Bool} {i d n : Nat} (groups : List (Nat × Nat × Nat))
    (hd : d ≤ n) (hgo : ∀ m, m < d → test (i + m) = true) (hstop : test (i + d) = false) :
    repeatWhile test Progress.advance n ⟨i, groups⟩ = ⟨i + d, groups⟩ := by
  induction d generalizing i n with
  | zero =>
    cases n with
    | zero => rfl
    | succ n => exact if_neg (Bool.not_eq_true _ ▸ hstop)
  | succ d ih =>
    obtain _ | n := n
    · omega
    · have hstep := ih (i := i + 1) (n := n) (by omega) (fun m hm => by
        rw [Nat.add_right_comm]
        exact hgo (m + 1) (by omega)) (by rwa [Nat.add_right_comm])
      rw [Nat.add_right_comm] at hstep
      exact (if_pos (hgo 0 (by omega))).trans hstep

def goesOn (greedy : Bool) (f : CharSet) (k : Pattern) (t : Text) (i : Nat) : Bool :=
  enters greedy (goal (.seq (.one f) (.seq (.star greedy (.one f)) k)) t) (k.goal t) i

theorem goesOn_greedy_iff : goesOn true f k (x ++ y) x.length = true ↔
    ∃ c u v, y = c :: (u ++ v) ∧ (∀ d ∈ c :: u, f d = true) ∧ Fits k (x ++ c :: u) v := by
  refine mem_goal_iff.trans (fits_seq_one_iff.trans ?_)
  simp only [fits_seq_star_one_iff, List.forall_mem_cons]
  constructor
  · rintro ⟨c, _, rfl, hc, u, v, rfl, hu, hk⟩
    exact ⟨c, u, v, rfl, ⟨hc, hu⟩, by simpa using hk⟩
  · rintro ⟨c, u, v, rfl, ⟨hc, hu⟩, hk⟩
    exact ⟨c, u ++ v, rfl, hc, u, v, rfl, hu, by simpa using hk⟩

theorem goesOn_lazy_iff : goesOn false f k (x ++ y) x.length = true ↔ ¬Fits k x y := by
  rw [← mem_goal_iff, Bool.not_eq_true, ← Bool.not_eq_true']
  rfl

theorem takes_star (hall : ∀ c ∈ u, f c = true)
    (hgo : ∀ u₁ c u₂, u = u₁ ++ c :: u₂ → goesOn greedy f k (x ++ u ++ v) (x ++ u₁).length = true)
    (hstop : goesOn greedy f k (x ++ u ++ v) (x ++ u).length = false) :
    Takes (.star greedy (.one f)) k x u v [] where
  matched := matches_star_one_iff.2 hall
  route_eq groups := by
    have hlen : u.length ≤ (x ++ u ++ v).length := by
      simp only [List.length_append]
      omega
    have hgo : ∀ m, m < u.length → goesOn greedy f k (x ++ u ++ v) (x.length + m) = true := by
      intro m hm
      have hsplit : u = u.take m ++ u[m] :: u.drop (m + 1) := by simp
      have hat := hgo _ _ _ hsplit
      rwa [List.length_append, List.length_take_of_le hm.le] at hat
    rw [List.length_append] at hstop
    have hrun := repeatWhile_advance groups hlen hgo hstop
    rw [x.length_append]
    exact hrun
  inside := by simp

/-- A greedy repetition takes as much as leaves a place for the rest. -/
theorem takes_star_greedy (hall : ∀ c ∈ u, f c = true) (hk : Fits k (x ++ u) v)
    (hmax : ∀ w r, v = w ++ r → w ≠ [] → (∀ c ∈ w, f c = true) → ¬Fits k (x ++ u ++ w) r) :
    Takes (.star true (.one f)) k x u v [] := by
  apply takes_star hall
  · rintro u₁ c u₂ rfl
    have htext : x ++ (u₁ ++ c :: u₂) ++ v = x ++ u₁ ++ (c :: (u₂ ++ v)) := by simp
    rw [htext, goesOn_greedy_iff]
    exact ⟨c, u₂, v, rfl, (List.forall_mem_append.1 hall).2, by simpa using hk⟩
  · rw [← Bool.not_eq_true, goesOn_greedy_iff]
    rintro ⟨c, w, r, rfl, hw, hfits⟩
    exact hmax (c :: w) r rfl (List.cons_ne_nil c w) hw hfits

/-- A lazy repetition takes as little as leaves a place for the rest. -/
theorem takes_star_lazy (hall : ∀ c ∈ u, f c = true) (hk : Fits k (x ++ u) v)
    (hmin : ∀ u₁ c u₂, u = u₁ ++ c :: u₂ → ¬Fits k (x ++ u₁) (c :: u₂ ++ v)) :
    Takes (.star false (.one f)) k x u v [] := by
  apply takes_star hall
  · rintro u₁ c u₂ rfl
    have htext : x ++ (u₁ ++ c :: u₂) ++ v = x ++ u₁ ++ (c :: u₂ ++ v) := by simp
    rw [htext, goesOn_lazy_iff]
    exact hmin u₁ c u₂ rfl
  · rw [← Bool.not_eq_true, goesOn_lazy_iff, not_not]
    exact hk

theorem Takes.plus {c : Char} {cs : List Capture} (hc : f c = true)
    (h : Takes (.star greedy (.one f)) k (x ++ [c]) u v cs) :
    Takes (.plus greedy (.one f)) k x (c :: u) v cs where
  matched := by
    have hu := matches_star_one_iff.1 h.matched
    exact matches_plus_one_iff.2 ⟨List.cons_ne_nil c u, List.forall_mem_cons.2 ⟨hc, hu⟩⟩
  route_eq groups := by
    have hstar := h.route_eq groups
    rw [x.length_append] at hstar
    rw [List.append_cons]
    exact hstar
  inside := by
    rw [List.append_cons]
    exact h.inside

theorem takes_star_run (hall : ∀ c ∈ u, f c = true) (hend : ∀ c ∈ v.head?, f c = false)
    (hk : Fits k (x ++ u) v) : Takes (.star true (.one f)) k x u v [] := by
  refine takes_star_greedy hall hk ?_
  -- more of the run would begin with a character outside the set, whatever the rest makes of it
  rintro w r rfl hne hw -
  obtain ⟨c, w, rfl⟩ := List.exists_cons_of_ne_nil hne
  have hin := hw c List.mem_cons_self
  have hout := hend c rfl
  exact Bool.false_ne_true (hout.symm.trans hin)

end Repetition

section Finds

/-- Wherever there is a match with the rest of a pattern behind it, following the pattern comes to
such a place. -/
def Finds (p : Pattern) : Prop :=
  ∀ k x y, Fits (.seq p k) x y → ∃ u v captures, y = u ++ v ∧ Fits k (x ++ u) v ∧
    Takes p k x u v captures

theorem Finds.seq (hp : Finds p) (hq : Finds q) : Finds (.seq p q) := by
  intro k x y h
  obtain ⟨u, _, cs, rfl, hfits, htakes⟩ := hp _ x y (fits_seq_seq_iff.1 h)
  obtain ⟨v, w, ds, rfl, hk, hrest⟩ := hq k (x ++ u) _ hfits
  exact ⟨u ++ v, w, ds ++ cs, (List.append_assoc u v w).symm, by simpa using hk, htakes.seq hrest⟩

theorem finds_star : Finds (.star true (.one f)) := by
  intro k x y h
  obtain ⟨u, v, hy, hu, hk⟩ := fits_seq_star_one_iff.1 h
  -- a run that is not the longest leaves less text when it is made longer, so
  -- this is induction on what is left
  induction hn : v.length using Nat.strong_induction_on generalizing u v with
  | _ n ih =>
    by_cases hmax : ∀ w r, v = w ++ r → w ≠ [] → (∀ c ∈ w, f c = true) → ¬Fits k (x ++ u ++ w) r
    · exact ⟨u, v, [], hy, hk, takes_star_greedy hu hk hmax⟩
    · simp only [not_forall, not_not] at hmax
      obtain ⟨w, r, rfl, hne, hw, hfits⟩ := hmax
      have hpos : 0 < w.length := List.length_pos_iff.2 hne
      have hlt : r.length < n := by
        rw [← hn, List.length_append]
        omega
      rw [← List.append_assoc] at hy
      rw [List.append_assoc] at hfits
      exact ih r.length hlt (u ++ w) r hy (List.forall_mem_append.2 ⟨hu, hw⟩) hfits rfl

theorem finds_plus : Finds (.plus true (.one f)) := by
  intro k x y h
  obtain ⟨_, w, rfl, ⟨hne, hall⟩, hk⟩ := fits_seq_plus_one_iff.1 h
  obtain ⟨c, u, rfl⟩ := List.exists_cons_of_ne_nil hne
  obtain ⟨hc, hu⟩ := List.forall_mem_cons.1 hall
  have hrest : Fits (.seq (.star true (.one f)) k) (x ++ [c]) (u ++ w) :=
    fits_seq_star_one_iff.2 ⟨u, w, rfl, hu, by simpa using hk⟩
  obtain ⟨u', v, cs, huv, hk, hstar⟩ := finds_star k _ _ hrest
  exact ⟨c :: u', v, cs, congrArg (c :: ·) huv, by simpa using hk, hstar.plus hc⟩

end Finds

section Only

/-- The pattern fits after `x`, and nowhere else in the text `x ++ y`. -/
structure FitsOnly (k : Pattern) (x y : Text) : Prop where
  fits : Fits k x y
  only : ∀ x' y', x' ++ y' = x ++ y → Fits k x' y' → x' = x

theorem FitsOnly.congr (h : FitsOnly p x y) (hpq : ∀ x y, Fits q x y ↔ Fits p x y) :
    FitsOnly q x y where
  fits := (hpq x y).2 h.fits
  only x' y' htext hfits := h.only x' y' htext ((hpq x' y').1 hfits)

theorem FitsOnly.exists_before {z : Text} (hk : FitsOnly k w z) (htext : x ++ y = w ++ z)
    (h : Fits (.seq p k) x y) : ∃ u, w = x ++ u ∧ y = u ++ z ∧ Matches p x u z := by
  obtain ⟨u, v, rfl, hp, hrest⟩ := fits_seq_iff.1 h
  obtain rfl := hk.only (x ++ u) v (by simpa using htext) hrest
  obtain rfl : v = z := by simpa using htext
  exact ⟨u, rfl, rfl, hp⟩

theorem FitsOnly.exists_takes {z : Text} (hk : FitsOnly k (x ++ w) z) (hfinds : Finds p)
    (hp : Matches p x w z) : ∃ captures, Takes p k x w z captures := by
  obtain ⟨u, v, cs, huv, hfits, htakes⟩ :=
    hfinds k x (w ++ z) (fits_seq_iff.2 ⟨w, z, rfl, hp, hk.fits⟩)
  have hplace := hk.only (x ++ u) v (by simp [huv]) hfits
  obtain rfl := List.append_cancel_left hplace
  obtain rfl := List.append_cancel_left huv
  exact ⟨cs, htakes⟩

theorem takes_star_of_only (hall : ∀ c ∈ u, f c = true) (hk : FitsOnly k (x ++ u) v) :
    Takes (.star greedy (.one f)) k x u v [] := by
  cases greedy with
  | false =>
    refine takes_star_lazy hall hk.fits ?_
    rintro u₁ c u₂ rfl hfits
    have hplace := hk.only (x ++ u₁) (c :: u₂ ++ v) (by simp) hfits
    simp at hplace
  | true =>
    refine takes_star_greedy hall hk.fits ?_
    rintro w r rfl hne - hfits
    have hplace := hk.only (x ++ u ++ w) r (by simp) hfits
    exact hne (List.append_right_eq_self.1 hplace)

variable {c : Char}

theorem fitsOnly_seq_one (hx : c ∉ x) (hy : c ∉ y) (hk : Fits k (x ++ [c]) y) :
    FitsOnly (.seq (.one (· == c)) k) x (c :: y) where
  fits := fits_seq_char_iff.2 ⟨y, rfl, hk⟩
  only x' y' htext hfits := by
    obtain ⟨v, rfl, -⟩ := fits_seq_char_iff.1 hfits
    exact ((List.append_cons_inj_of_notMem hx hy).1 htext.symm).1.symm

theorem append_cons_inj_of_last {z z' : Text} (hz : c ∉ z) (hz' : c ∉ z')
    (h : x ++ c :: z = y ++ c :: z') : x = y := by
  have hnil : ∀ {s z z' : Text}, c ∉ z → c :: z = s ++ c :: z' → s = [] := by
    intro s z z' hz h
    obtain _ | ⟨d, s⟩ := s
    · rfl
    · obtain rfl := (List.cons.inj h).2
      exact absurd (by simp) hz
  rcases List.append_eq_append_iff.1 h with ⟨s, rfl, hs⟩ | ⟨s, rfl, hs⟩
  · rw [hnil hz hs, List.append_nil]
  · rw [hnil hz' hs, List.append_nil]

theorem FitsOnly.seq_one_star (greedy : Bool) (hk : FitsOnly k (x ++ c :: u) v)
    (hu : ∀ d ∈ u, f d = true) (hc : f c = false) :
    FitsOnly (.seq (.one (· == c)) (.seq (.star greedy (.one f)) k)) x (c :: u ++ v) where
  fits := by
    refine fits_seq_char_iff.2 ⟨u ++ v, rfl, ?_⟩
    exact fits_seq_star_one_iff.2 ⟨u, v, rfl, hu, by simpa using hk.fits⟩
  only x' y' htext hfits := by
    -- the set leaves `c` out, so both texts have their last `c` before the place
    -- of `k` at the same point
    have hout : ∀ w : Text, (∀ d ∈ w, f d = true) → c ∉ w := fun w hw hmem =>
      Bool.false_ne_true (hc.symm.trans (hw c hmem))
    obtain ⟨_, rfl, hrest⟩ := fits_seq_char_iff.1 hfits
    obtain ⟨w, r, rfl, hw, hrest⟩ := fits_seq_star_one_iff.1 hrest
    have hplace := hk.only (x' ++ c :: w) r (by simpa using htext) (by simpa using hrest)
    exact append_cons_inj_of_last (hout w hw) (hout u hu) hplace

end Only

end Dictation.Pattern
