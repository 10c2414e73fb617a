import Dictation.Text.Basic
import Mathlib.Data.List.Basic
import Mathlib.Order.Bounds.Basic

namespace Dictation.Text

theorem size_eq_zero {t : Text} : t.size = 0 ↔ t = [] := by
  cases t with
  | nil => simp
  | cons c t =>
    have := c.utf8Size_pos
    simp only [size_cons, reduceCtorEq, iff_false]
    omega

theorem IsBoundary.append (s t : Text) : IsBoundary (s ++ t) s.size := ⟨s, t, rfl, rfl⟩

theorem isBoundary_zero (t : Text) : t.IsBoundary 0 := ⟨[], t, rfl, rfl⟩

theorem isBoundary_size (t : Text) : t.IsBoundary t.size := ⟨t, [], (List.append_nil t).symm, rfl⟩

theorem IsBoundary.le_size {t : Text} {i : Nat} (h : t.IsBoundary i) : i ≤ t.size := by
  obtain ⟨s, r, rfl, rfl⟩ := h
  simp

section Bytes

variable {t : Text} {i : Nat}

theorem bytes_cons (c : Char) (t : Text) : bytes (c :: t) = String.utf8EncodeChar c ++ t.bytes :=
  List.flatMap_cons

theorem bytes_append (s t : Text) : bytes (s ++ t) = s.bytes ++ t.bytes := List.flatMap_append

@[simp] theorem length_bytes (t : Text) : t.bytes.length = t.size := by
  induction t with
  | nil => rfl
  | cons c t ih => rw [bytes_cons, List.length_append, String.length_utf8EncodeChar, ih, size_cons]

theorem beginsCharacter_ofNat {n : Nat} (h : n < 256) :
    beginsCharacter (UInt8.ofNat n) = true ↔ n < 0x80 ∨ 0xC0 ≤ n := by
  simp [beginsCharacter, UInt8.lt_iff_toNat_lt, UInt8.le_iff_toNat_le, UInt8.toNat_ofNat',
    Nat.mod_eq_of_lt h]

/-- Of the bytes of a character the first one begins it, and no other does. -/
theorem exists_encode (c : Char) :
    ∃ b bs, String.utf8EncodeChar c = b :: bs ∧ beginsCharacter b = true ∧
    ∀ x ∈ bs, beginsCharacter x = false := by
  have hlater (n : Nat) : beginsCharacter (UInt8.ofNat (n % 0x40 + 0x80)) = false := by
    rw [← Bool.not_eq_true, beginsCharacter_ofNat (by omega)]
    omega
  fun_cases String.utf8EncodeChar c with
  | case1 v => exact ⟨_, [], rfl, (beginsCharacter_ofNat (by omega)).2 (by omega), nofun⟩
  | case2 v =>
    refine ⟨_, _, rfl, (beginsCharacter_ofNat (by omega)).2 (by omega), ?_⟩
    exact List.forall_mem_singleton.2 (hlater _)
  | case3 v =>
    refine ⟨_, _, rfl, (beginsCharacter_ofNat (by omega)).2 (by omega), ?_⟩
    exact List.forall_mem_cons.2 ⟨hlater _, List.forall_mem_singleton.2 (hlater _)⟩
  | case4 v =>
    refine ⟨_, _, rfl, (beginsCharacter_ofNat (by omega)).2 (by omega), ?_⟩
    exact List.forall_mem_cons.2 ⟨hlater _,
      List.forall_mem_cons.2 ⟨hlater _, List.forall_mem_singleton.2 (hlater _)⟩⟩

theorem beginsCharacter_iff_eq_zero {c : Char} {b : UInt8}
    (h : (String.utf8EncodeChar c)[i]? = some b) : beginsCharacter b = true ↔ i = 0 := by
  obtain ⟨first, later, hencode, hfirst, hlater⟩ := exists_encode c
  rw [hencode] at h
  cases i with
  | zero =>
    obtain rfl := Option.some.inj h
    exact iff_of_true hfirst rfl
  | succ i =>
    rw [List.getElem?_cons_succ] at h
    rw [hlater b (List.mem_of_getElem? h)]
    exact iff_of_false Bool.false_ne_true (Nat.succ_ne_zero i)

theorem exists_byte_iff : (∃ b, t.bytes[i]? = some b ∧ beginsCharacter b = true) ↔
    ∃ (before : Text) (c : Char) (after : Text), t = before ++ c :: after ∧ before.size = i := by
  constructor
  · rintro ⟨b, hb, hbegins⟩
    induction t generalizing i with
    | nil => cases hb
    | cons c t ih =>
      have hsize := String.length_utf8EncodeChar c
      rw [bytes_cons] at hb
      rcases Nat.lt_or_ge i c.utf8Size with hi | hi
      · rw [List.getElem?_append_left (by omega)] at hb
        obtain rfl := (beginsCharacter_iff_eq_zero hb).1 hbegins
        exact ⟨[], c, t, rfl, rfl⟩
      · rw [List.getElem?_append_right (by omega), hsize] at hb
        obtain ⟨before, d, after, rfl, hbefore⟩ := ih hb
        exact ⟨c :: before, d, after, rfl, by rw [size_cons]; omega⟩
  · rintro ⟨before, c, after, rfl, rfl⟩
    obtain ⟨first, later, hencode, hfirst, -⟩ := exists_encode c
    refine ⟨first, ?_, hfirst⟩
    rw [bytes_append, ← length_bytes, List.getElem?_append_right (Nat.le_refl _), Nat.sub_self,
      bytes_cons, hencode]
    rfl

theorem atBoundary_iff : t.atBoundary i = true ↔ t.IsBoundary i := by
  rw [atBoundary, Bool.or_eq_true, beq_iff_eq]
  constructor
  · rintro (rfl | h)
    · exact t.isBoundary_zero
    · cases hb : t.bytes[i]? with
      | none =>
        rw [hb] at h
        exact beq_iff_eq.1 h ▸ t.isBoundary_size
      | some b =>
        rw [hb] at h
        obtain ⟨before, c, after, rfl, rfl⟩ := exists_byte_iff.1 ⟨b, hb, h⟩
        exact .append before (c :: after)
  · rintro ⟨before, after, rfl, rfl⟩
    right
    cases after with
    | nil => simp
    | cons c after =>
      obtain ⟨b, hb, hbegins⟩ := exists_byte_iff.2 ⟨before, c, after, rfl, rfl⟩
      rw [hb]
      exact hbegins

end Bytes

section Descent

variable {t : Text} {i j : Nat}

theorem boundaries_step (h : ¬t.IsBoundary (i + 1)) :
    {k | t.IsBoundary k ∧ k ≤ i + 1} = {k | t.IsBoundary k ∧ k ≤ i} := by
  ext k
  refine and_congr_right fun hk => ⟨fun hle => ?_, Nat.le_succ_of_le⟩
  have hne : k ≠ i + 1 := fun he => h (he ▸ hk)
  omega

/-- On its way a descent has as many boundaries below it as at first, and it stops at one of them.
-/
theorem isGreatest_of_descend? (h : t.descend? i = some j) :
    IsGreatest {k | t.IsBoundary k ∧ k ≤ i} j := by
  induction i with
  | zero =>
    rw [descend?, if_pos (atBoundary_iff.2 t.isBoundary_zero)] at h
    obtain rfl := Option.some.inj h
    exact ⟨⟨t.isBoundary_zero, Nat.le_refl 0⟩, fun k hk => hk.2⟩
  | succ i ih =>
    rw [descend?] at h
    split_ifs at h with hi
    · obtain rfl := Option.some.inj h
      exact ⟨⟨atBoundary_iff.1 hi, Nat.le_refl _⟩, fun k hk => hk.2⟩
    · rw [boundaries_step (fun hb => hi (atBoundary_iff.2 hb))]
      exact ih h

theorem isGreatest_floor (t : Text) (i : Nat) : IsGreatest {j | t.IsBoundary j ∧ j ≤ min i t.size}
    (t.floor i) := by
  rw [floor]
  split_ifs with h
  · rw [Nat.min_eq_right h]
    exact ⟨⟨t.isBoundary_size, Nat.le_refl _⟩, fun k hk => hk.2⟩
  · rw [Nat.min_eq_left (Nat.le_of_not_le h)]
    exact isGreatest_of_descend? (Option.some_get _).symm

theorem isBoundary_floor (t : Text) (i : Nat) : t.IsBoundary (t.floor i) :=
  (t.isGreatest_floor i).1.1

theorem floor_le (t : Text) (i : Nat) : t.floor i ≤ i :=
  Nat.le_trans (t.isGreatest_floor i).1.2 (Nat.min_le_left _ _)

theorem le_floor (hj : t.IsBoundary j) (h : j ≤ i) : j ≤ t.floor i :=
  (t.isGreatest_floor i).2 ⟨hj, Nat.le_min.2 ⟨h, hj.le_size⟩⟩

theorem descend?_eq_some_floor (t : Text) (i : Nat) : t.descend? i = some (t.floor i) := by
  obtain ⟨j, hj⟩ := Option.isSome_iff_exists.1 (t.isSome_descend? i)
  have hgreatest := isGreatest_of_descend? hj
  rw [hj, Nat.le_antisymm (le_floor hgreatest.1.1 hgreatest.1.2)
    (hgreatest.2 ⟨t.isBoundary_floor i, t.floor_le i⟩)]

theorem floor_of_isBoundary (h : t.IsBoundary i) : t.floor i = i :=
  Nat.le_antisymm (t.floor_le i) (le_floor h (Nat.le_refl i))

theorem floor_mono (t : Text) (h : i ≤ j) : t.floor i ≤ t.floor j :=
  le_floor (t.isBoundary_floor i) (Nat.le_trans (t.floor_le i) h)

@[simp] theorem floor_size (s t : Text) : floor (s ++ t) s.size = s.size :=
  floor_of_isBoundary (.append s t)

end Descent

/-- Of two cuts through a text the later one has the earlier one's first part in its own. -/
theorem exists_between {s s' r r' : Text} (h : s ++ r = s' ++ r') (hs : s.size ≤ s'.size) :
    ∃ m, s' = s ++ m ∧ r = m ++ r' := by
  rcases List.append_eq_append_iff.1 h with ⟨m, hm, hr⟩ | ⟨m, hm, hr⟩
  · exact ⟨m, hm, hr⟩
  · have hz : m = [] := by
      rw [hm, size_append] at hs
      exact size_eq_zero.1 (by omega)
    subst hz
    exact ⟨[], by simpa using hm.symm, by simpa using hr.symm⟩

/-- There is one way to cut a text at an offset. -/
theorem append_inj_of_size {s s' r r' : Text} (h : s ++ r = s' ++ r') (hs : s.size = s'.size) :
    s = s' ∧ r = r' := by
  have hcut := upTo_size s r
  rw [h, hs, upTo_size] at hcut
  exact List.append_inj h (congrArg List.length hcut.symm)

section Cut

variable {s t : Text} {i : Nat} {c : Char}

theorem upTo_append_of_le (h : s.size ≤ i) (t : Text) :
    upTo (s ++ t) i = s ++ upTo t (i - s.size) := by
  induction s generalizing i with
  | nil => rfl
  | cons c s ih =>
    rw [size_cons] at h
    rw [List.cons_append, upTo,
      if_pos (by omega), ih (by omega), size_cons, Nat.sub_sub, List.cons_append]

theorem beyond_append_of_le (h : s.size ≤ i) (t : Text) :
    beyond (s ++ t) i = beyond t (i - s.size) := by
  have hcut := upTo_append_beyond (s ++ t) i
  rw [upTo_append_of_le h, List.append_assoc] at hcut
  exact List.append_cancel_left ((List.append_cancel_left hcut).trans (upTo_append_beyond t _).symm)

theorem size_upTo_le (t : Text) (i : Nat) : (upTo t i).size ≤ i := by
  induction t generalizing i with
  | nil => exact Nat.zero_le i
  | cons c t ih =>
    rw [upTo]
    split_ifs with h
    · have := ih (i - c.utf8Size)
      rw [size_cons]
      omega
    · exact Nat.zero_le i

theorem size_upTo (t : Text) (i : Nat) : (upTo t i).size = t.floor i := by
  have hcut : t.IsBoundary (upTo t i).size :=
    ⟨upTo t i, beyond t i, (upTo_append_beyond t i).symm, rfl⟩
  refine Nat.le_antisymm (le_floor hcut (size_upTo_le t i)) ?_
  obtain ⟨s, r, ht, hs⟩ := t.isBoundary_floor i
  have hkept : upTo t i = s ++ upTo r (i - s.size) := by
    rw [ht]
    exact upTo_append_of_le (hs ▸ t.floor_le i) r
  rw [hkept, size_append, hs]
  exact Nat.le_add_right _ _

theorem upTo_floor (t : Text) (i : Nat) : upTo t (floor t i) = upTo t i := by
  have h := upTo_size (upTo t i) (beyond t i)
  rwa [upTo_append_beyond, size_upTo] at h

theorem beyond_floor (t : Text) (i : Nat) : beyond t (floor t i) = beyond t i := by
  have h := beyond_size (upTo t i) (beyond t i)
  rwa [upTo_append_beyond, size_upTo] at h

theorem lt_of_head?_beyond (h : (beyond t i).head? = some c) :
    i < (upTo t i).size + c.utf8Size := by
  induction t generalizing i with
  | nil => cases h
  | cons d t ih =>
    rw [beyond] at h
    rw [upTo]
    by_cases hd : d.utf8Size ≤ i
    · rw [if_pos hd] at h ⊢
      have := ih h
      rw [size_cons]
      omega
    · rw [if_neg hd] at h ⊢
      obtain rfl := Option.some.inj h
      rw [size_nil]
      omega

theorem min_lt_floor_add (t : Text) (i : Nat) : min i t.size < t.floor i + 4 := by
  have hcut := upTo_append_beyond t i
  rw [← size_upTo]
  cases hrest : beyond t i with
  | nil =>
    rw [hrest, List.append_nil] at hcut
    rw [hcut]
    omega
  | cons c r =>
    have hlt : i < (upTo t i).size + c.utf8Size :=
      lt_of_head?_beyond (by rw [hrest, List.head?_cons])
    have := c.utf8Size_le_four
    omega

theorem upTo_eq_nil_iff : upTo t i = [] ↔ ∀ c, t.head? = some c → i < c.utf8Size := by
  cases t with
  | nil => simp [upTo]
  | cons c t => by_cases h : c.utf8Size ≤ i <;> simp [upTo, h]; omega

end Cut

@[simp] theorem slice_size (s m r : Text) : slice (s ++ m ++ r) s.size (s ++ m).size = m := by
  rw [slice, List.append_assoc, floor_size, beyond_size, size_append, Nat.add_sub_cancel_left,
    upTo_size]

end Dictation.Text
