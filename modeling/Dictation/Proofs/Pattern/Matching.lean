import Dictation.Proofs.Pattern.Search

namespace Dictation.Pattern

variable {p q : Pattern} {f : CharSet} {t x y z : Text} {greedy : Bool} {index : Nat}

/-- The pattern matches `y` where it stands between `x` and `z`. -/
def Matches (p : Pattern) (x y z : Text) : Prop :=
  Leads (p.locate (x ++ y ++ z)) x.length (x ++ y).length

theorem mem_locate_charSet (f : CharSet) (t : Text) (i : Nat) :
    (f.locate t).mem i = true ↔ ∃ c, t[i]? = some c ∧ f c = true := by
  rw [CharSet.locate, Positions.mem_ofFlags, List.getElem?_map]
  cases t[i]? <;> simp

section Forms

theorem matches_empty_iff : Matches .empty x y z ↔ y = [] := by
  simp [Matches, locate, Shape.map]

theorem matches_one_iff : Matches (.one f) x y z ↔ ∃ c, y = [c] ∧ f c = true := by
  simp only [Matches, locate, Shape.map, leads_one_iff, mem_locate_charSet]
  constructor
  · rintro ⟨⟨c, hc, hf⟩, hlen⟩
    have hy : y.length = 1 := by
      rw [List.length_append] at hlen
      omega
    obtain ⟨d, rfl⟩ := List.length_eq_one_iff.1 hy
    have hd : (x ++ [d] ++ z)[x.length]? = some d := by simp
    rw [hd] at hc
    cases hc
    exact ⟨c, rfl, hf⟩
  · rintro ⟨c, rfl, hf⟩
    exact ⟨⟨c, by simp, hf⟩, by simp⟩

theorem matches_place_iff (l : Place) :
    Matches (.place l) x y z ↔ y = [] ∧ l.holds x.getLast? z.head? = true := by
  simp only [Matches, locate, Shape.map, leads_place_iff, mem_locate_place]
  have hbefore : (if x.length = 0 then none else (x ++ z)[x.length - 1]?) = x.getLast? := by
    cases x using List.reverseRecOn <;> simp
  have hafter : (x ++ z)[x.length]? = z.head? := by
    rw [List.getElem?_append_right le_rfl, Nat.sub_self, List.head?_eq_getElem?]
  constructor
  · rintro ⟨⟨-, hholds⟩, hlen⟩
    obtain rfl : y = [] := List.length_eq_zero_iff.1 (by rw [List.length_append] at hlen; omega)
    rw [List.append_nil, hbefore, hafter] at hholds
    exact ⟨rfl, hholds⟩
  · rintro ⟨rfl, hholds⟩
    rw [List.append_nil, hbefore, hafter]
    exact ⟨⟨by simp, hholds⟩, rfl⟩

theorem matches_seq_iff :
    Matches (.seq p q) x y z ↔ ∃ u v, y = u ++ v ∧ Matches p x u (v ++ z) ∧
      Matches q (x ++ u) v z := by
  simp only [Matches, locate, Shape.map, leads_seq_iff]
  constructor
  · rintro ⟨k, hp, hq⟩
    have hle := hq.le
    rw [List.length_append] at hle
    have hk : k = (x ++ y.take (k - x.length)).length := by
      have := hp.le
      simp only [List.length_append, List.length_take]
      omega
    refine ⟨y.take (k - x.length), y.drop (k - x.length), (List.take_append_drop _ _).symm, ?_, ?_⟩
    · rw [← hk, List.append_assoc x, ← List.append_assoc _ _ z, List.take_append_drop,
        ← List.append_assoc]
      exact hp
    · rw [← hk, List.append_assoc x, List.take_append_drop]
      exact hq
  · rintro ⟨u, v, rfl, hp, hq⟩
    refine ⟨(x ++ u).length, ?_, ?_⟩
    · simpa [List.append_assoc] using hp
    · simpa [List.append_assoc] using hq

theorem matches_alt_iff : Matches (.alt p q) x y z ↔ Matches p x y z ∨ Matches q x y z :=
  leads_alt_iff

theorem matches_opt_iff : Matches (.opt greedy p) x y z ↔ y = [] ∨ Matches p x y z := by
  have hnil : x.length = (x ++ y).length ↔ y = [] := by simp
  rw [← hnil]
  exact leads_opt_iff

theorem matches_group_iff : Matches (.group index p) x y z ↔ Matches p x y z := leads_group_iff

theorem getElem?_append_append (x y z : Text) {i : Nat} (hi : i < y.length) :
    (x ++ y ++ z)[x.length + i]? = some y[i] := by
  rw [List.append_assoc, List.getElem?_append_right (Nat.le_add_right _ _), Nat.add_sub_cancel_left,
    List.getElem?_append_left hi, List.getElem?_eq_getElem hi]

theorem leads_star_one_iff {s : Positions} {i j : Nat} :
    Leads (.star greedy (.one s)) i j ↔ i ≤ j ∧ ∀ k, i ≤ k → k < j → s.mem k = true := by
  constructor
  · intro h
    refine ⟨h.le, ?_⟩
    -- the tail of a repetition is that repetition again, so the induction is over
    -- a pattern equal to it
    generalize hq : Shape.star greedy (Shape.one s) = q at h
    induction h with
    | starNil => intro k hik hkj; omega
    | starCons hbody hrest _ ih =>
      cases hq
      obtain ⟨hs, rfl⟩ := leads_one_iff.1 hbody
      intro k hik hkj
      obtain rfl | hlt := hik.eq_or_lt
      · exact hs
      · exact ih rfl k hlt hkj
    | _ => cases hq
  · rintro ⟨hle, hall⟩
    obtain ⟨d, rfl⟩ := Nat.exists_eq_add_of_le hle
    clear hle
    induction d generalizing i with
    | zero => exact .starNil _ _ _
    | succ d ih =>
      have hrest := ih (i := i + 1) fun k hk hkd => hall k (by omega) (by omega)
      rw [Nat.add_right_comm] at hrest
      exact .starCons (.one (hall i le_rfl (by omega))) hrest

theorem matches_star_one_iff : Matches (.star greedy (.one f)) x y z ↔ ∀ c ∈ y, f c = true := by
  simp only [Matches, locate, Shape.map, leads_star_one_iff, mem_locate_charSet]
  constructor
  · rintro ⟨-, hall⟩ c hc
    obtain ⟨i, hi, rfl⟩ := List.getElem_of_mem hc
    obtain ⟨d, hd, hf⟩ := hall (x.length + i) (by omega) (by simpa using hi)
    rw [getElem?_append_append x y z hi] at hd
    cases hd
    exact hf
  · intro hall
    refine ⟨by simp, ?_⟩
    intro k hk hlt
    obtain ⟨i, rfl⟩ := Nat.exists_eq_add_of_le hk
    have hi : i < y.length := by simpa using hlt
    exact ⟨y[i], getElem?_append_append x y z hi, hall _ (List.getElem_mem hi)⟩

theorem matches_plus_one_iff :
    Matches (.plus greedy (.one f)) x y z ↔ y ≠ [] ∧ ∀ c ∈ y, f c = true := by
  have hplus : Matches (.plus greedy (.one f)) x y z ↔
      Matches (.seq (.one f) (.star greedy (.one f))) x y z :=
    leads_plus_iff.trans leads_seq_iff.symm
  rw [hplus, matches_seq_iff]
  simp only [matches_one_iff, matches_star_one_iff]
  constructor
  · rintro ⟨_, v, rfl, ⟨c, rfl, hc⟩, hv⟩
    exact ⟨List.cons_ne_nil c v, List.forall_mem_cons.2 ⟨hc, hv⟩⟩
  · rintro ⟨hne, hall⟩
    obtain ⟨c, v, rfl⟩ := List.exists_cons_of_ne_nil hne
    obtain ⟨hc, hv⟩ := List.forall_mem_cons.1 hall
    exact ⟨[c], v, rfl, ⟨c, rfl, hc⟩, hv⟩

theorem nullable_map {σ π σ' π' : Type} (g : σ → σ') (h : π → π') (p : Shape σ π) :
    (p.map g h).nullable = p.nullable := by
  induction p with
  | seq p q ihp ihq | alt p q ihp ihq => rw [Shape.map, Shape.nullable, Shape.nullable, ihp, ihq]
  | plus greedy p ih | group i p ih => rw [Shape.map, Shape.nullable, Shape.nullable, ih]
  | _ => rfl

theorem Leads.nullable_of_eq {p : Located} {i j : Nat} (h : Leads p i j) (hij : i = j) :
    p.nullable = true := by
  induction h with
  | one => omega
  | seq hp hq ihp ihq =>
    have hp := hp.le
    have hq := hq.le
    rw [Shape.nullable, ihp (by omega), ihq (by omega), Bool.and_self]
  | altLeft hp ihp => rw [Shape.nullable, ihp hij, Bool.true_or]
  | altRight hq ihq => rw [Shape.nullable, ihq hij, Bool.or_true]
  | plus hp hq ihp ihq =>
    have hp := hp.le
    have hq := hq.le
    rw [Shape.nullable, ihp (by omega)]
  | group index hp ih => rw [Shape.nullable, ih hij]
  | _ => rfl

theorem Matches.ne_nil (h : Matches p x y z) (hp : p.nullable = false) : y ≠ [] := by
  rintro rfl
  have hnull := Leads.nullable_of_eq h (by rw [List.append_nil])
  rw [locate, nullable_map, hp] at hnull
  cases hnull

end Forms

section Fits

/-- A match of the pattern can start between `x` and `y`. -/
def Fits (p : Pattern) (x y : Text) : Prop := ∃ u v, y = u ++ v ∧ Matches p x u v

theorem startsAt_append_iff : p.StartsAt (x ++ y) x.length ↔ p.Fits x y := by
  constructor
  · rintro ⟨j, hj, hl⟩
    have hle := hl.le
    rw [List.length_append] at hj
    have hk : j = (x ++ y.take (j - x.length)).length := by
      simp only [List.length_append, List.length_take]
      omega
    refine ⟨y.take (j - x.length), y.drop (j - x.length), (List.take_append_drop _ _).symm, ?_⟩
    rw [Matches, ← hk, List.append_assoc, List.take_append_drop]
    exact hl
  · rintro ⟨u, v, rfl, h⟩
    rw [Matches, List.append_assoc] at h
    exact ⟨_, by simp, h⟩

theorem StartsAt.fits {i : Nat} (h : p.StartsAt t i) : p.Fits (t.take i) (t.drop i) := by
  rwa [← startsAt_append_iff, List.take_append_drop, List.length_take_of_le h.le_length]

/-- The text before the leftmost match is the shortest one in front of which the pattern fits. -/
theorem take_findStart?_eq_some_iff : (p.findStart? t).map t.take = some x ↔ ∃ y,
    t = x ++ y ∧ p.Fits x y ∧ ∀ x' y', t = x' ++ y' → p.Fits x' y' → x.length ≤ x'.length := by
  simp only [Option.map_eq_some_iff, findStart?_eq_some_iff]
  constructor
  · rintro ⟨i, ⟨hi, hleast⟩, rfl⟩
    refine ⟨t.drop i, (List.take_append_drop i t).symm, hi.fits, ?_⟩
    rintro x' y' rfl hfits
    rw [List.length_take_of_le hi.le_length]
    exact hleast _ (startsAt_append_iff.2 hfits)
  · rintro ⟨y, rfl, hfits, hleast⟩
    refine ⟨x.length, ⟨startsAt_append_iff.2 hfits, fun k hk => ?_⟩, List.take_left⟩
    rw [← List.length_take_of_le hk.le_length]
    exact hleast _ _ (List.take_append_drop k _).symm hk.fits

theorem findStart?_eq_none_iff : p.findStart? t = none ↔ ∀ x y, t = x ++ y → ¬p.Fits x y := by
  rw [← Option.not_isSome_iff_eq_none, findStart?_isSome_iff]
  constructor
  · rintro hno x y rfl hfits
    exact hno ⟨x.length, startsAt_append_iff.2 hfits⟩
  · rintro hno ⟨i, hi⟩
    exact hno _ _ (List.take_append_drop i t).symm hi.fits

variable {k : Pattern}

@[simp] theorem fits_empty : Fits .empty x y := ⟨[], y, rfl, matches_empty_iff.2 rfl⟩

theorem fits_seq_iff : Fits (.seq p k) x y ↔ ∃ u v,
    y = u ++ v ∧ Matches p x u v ∧ Fits k (x ++ u) v := by
  constructor
  · rintro ⟨w, r, rfl, h⟩
    obtain ⟨u, v, rfl, hp, hk⟩ := matches_seq_iff.1 h
    exact ⟨u, v ++ r, by simp, hp, v, r, rfl, hk⟩
  · rintro ⟨u, _, rfl, hp, v, r, rfl, hk⟩
    exact ⟨u ++ v, r, by simp, matches_seq_iff.2 ⟨u, v, rfl, hp, hk⟩⟩

theorem fits_seq_empty_iff : Fits (.seq p .empty) x y ↔ Fits p x y := by
  rw [fits_seq_iff]
  constructor
  · rintro ⟨u, v, rfl, hp, -⟩
    exact ⟨u, v, rfl, hp⟩
  · rintro ⟨u, v, rfl, hp⟩
    exact ⟨u, v, rfl, hp, fits_empty⟩

theorem fits_seq_one_iff :
    Fits (.seq (.one f) k) x y ↔ ∃ c v, y = c :: v ∧ f c = true ∧ Fits k (x ++ [c]) v := by
  simp only [fits_seq_iff, matches_one_iff]
  constructor
  · rintro ⟨_, v, rfl, ⟨c, rfl, hc⟩, hk⟩
    exact ⟨c, v, rfl, hc, hk⟩
  · rintro ⟨c, v, rfl, hc, hk⟩
    exact ⟨[c], v, rfl, ⟨c, rfl, hc⟩, hk⟩

theorem fits_seq_char_iff {c : Char} :
    Fits (.seq (.one (· == c)) k) x y ↔ ∃ v, y = c :: v ∧ Fits k (x ++ [c]) v := by
  rw [fits_seq_one_iff]
  constructor
  · rintro ⟨d, v, rfl, hd, hk⟩
    obtain rfl := beq_iff_eq.1 hd
    exact ⟨v, rfl, hk⟩
  · rintro ⟨v, rfl, hk⟩
    exact ⟨c, v, rfl, beq_self_eq_true c, hk⟩

theorem fits_seq_star_one_iff : Fits (.seq (.star greedy (.one f)) k) x y ↔
    ∃ u v, y = u ++ v ∧ (∀ c ∈ u, f c = true) ∧ Fits k (x ++ u) v := by
  simp only [fits_seq_iff, matches_star_one_iff]

theorem fits_seq_plus_one_iff : Fits (.seq (.plus greedy (.one f)) k) x y ↔
    ∃ u v, y = u ++ v ∧ (u ≠ [] ∧ ∀ c ∈ u, f c = true) ∧ Fits k (x ++ u) v := by
  simp only [fits_seq_iff, matches_plus_one_iff]

theorem fits_seq_place_iff {l : Place} :
    Fits (.seq (.place l) k) x y ↔ l.holds x.getLast? y.head? = true ∧ Fits k x y := by
  simp only [fits_seq_iff, matches_place_iff]
  constructor
  · rintro ⟨_, v, rfl, ⟨rfl, hholds⟩, hk⟩
    exact ⟨hholds, by simpa using hk⟩
  · rintro ⟨hholds, hk⟩
    exact ⟨[], y, rfl, ⟨rfl, hholds⟩, by simpa using hk⟩

theorem fits_textEnd_iff : Fits (.place .textEnd) x y ↔ y = [] := by
  simp only [Fits, matches_place_iff, Place.holds, Option.isNone_iff_eq_none,
    List.head?_eq_none_iff]
  constructor
  · rintro ⟨_, _, rfl, rfl, rfl⟩
    rfl
  · rintro rfl
    exact ⟨[], [], rfl, rfl, rfl⟩

theorem fits_seq_group_iff : Fits (.seq (.group index p) k) x y ↔ Fits (.seq p k) x y := by
  simp only [fits_seq_iff, matches_group_iff]

theorem fits_seq_seq_iff : Fits (.seq (.seq p q) k) x y ↔ Fits (.seq p (.seq q k)) x y := by
  constructor
  · intro h
    obtain ⟨_, v, rfl, h, hk⟩ := fits_seq_iff.1 h
    obtain ⟨u, w, rfl, hp, hq⟩ := matches_seq_iff.1 h
    rw [fits_seq_iff]
    refine ⟨u, w ++ v, by simp, hp, fits_seq_iff.2 ⟨w, v, rfl, hq, by simpa using hk⟩⟩
  · intro h
    obtain ⟨u, _, rfl, hp, h⟩ := fits_seq_iff.1 h
    obtain ⟨w, v, rfl, hq, hk⟩ := fits_seq_iff.1 h
    rw [fits_seq_iff]
    exact ⟨u ++ w, v, by simp, matches_seq_iff.2 ⟨u, w, rfl, hp, hq⟩, by simpa using hk⟩

theorem fits_seq_opt_iff :
    Fits (.seq (.opt greedy p) k) x y ↔ Fits k x y ∨ Fits (.seq p k) x y := by
  simp only [fits_seq_iff, matches_opt_iff, or_and_right, and_or_left, exists_or]
  refine or_congr_left ?_
  constructor
  · rintro ⟨_, v, rfl, rfl, hk⟩
    simpa using hk
  · intro hk
    exact ⟨[], y, rfl, rfl, by simpa using hk⟩

end Fits

end Dictation.Pattern
