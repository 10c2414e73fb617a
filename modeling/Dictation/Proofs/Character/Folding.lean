import Dictation.Character.Blank
import Dictation.Character.Folding
import Dictation.Proofs.Character.Casing

namespace Dictation.Character

def CaseRun.Spares (r : CaseRun) (x : Nat) : Prop :=
  (r.start + r.length * r.stride ≤ x ∨ x < r.start) ∧
    (r.start + r.length * r.stride + r.forward ≤ x ∨ x < r.start + r.forward)

instance (r : CaseRun) (x : Nat) : Decidable (r.Spares x) := inferInstanceAs (Decidable (_ ∧ _))

def Uncased (classes : List (List Nat)) (runs : List CaseRun) (xs : List Nat) : Prop :=
  (∀ members ∈ classes, ∀ x ∈ xs, x ∉ members) ∧ ∀ r ∈ runs, ∀ x ∈ xs, r.Spares x

instance (classes : List (List Nat)) (runs : List CaseRun) (xs : List Nat) :
    Decidable (Uncased classes runs xs) :=
  inferInstanceAs (Decidable (_ ∧ _))

theorem CaseRun.Spares.ne_of_covers {r : CaseRun} {x y : Nat} (hr : r.Spares y)
    (hx : r.covers x = true) : x ≠ y ∧ x + r.forward ≠ y := by
  simp only [covers, Bool.and_eq_true, decide_eq_true_eq] at hx
  obtain ⟨hlower, hupper⟩ := hr
  constructor <;> rintro rfl <;> omega

/-- The three ways in which a character comes to its class, or to one of its own. -/
theorem caseClass_cases (c : Char) :
    (∃ members ∈ largeClasses, c.toNat ∈ members ∧ caseClass c = members.map Char.ofNat) ∨
    (∃ r ∈ pairRuns, r.covers c.toNat = true ∧
      caseClass c = [c, Char.ofNat (c.toNat + r.forward)]) ∨
    (∃ r ∈ pairRuns, r.covers (c.toNat - r.forward) = true ∧
      caseClass c = [Char.ofNat (c.toNat - r.forward), c]) ∨
    caseClass c = [c] := by
  -- an equation for the definition at a character would be checked by going through its tables
  generalize hclass : caseClass = classOf
  delta caseClass at hclass
  subst hclass
  dsimp only
  cases hlarge : largeClasses.find? (·.contains c.toNat) with
  | some members =>
    have hcontains : members.contains c.toNat = true :=
      List.find?_some (p := fun members : List Nat => members.contains c.toNat) hlarge
    exact .inl ⟨members, List.mem_of_find?_eq_some hlarge, List.contains_iff_mem.1 hcontains, rfl⟩
  | none =>
    cases hlower : pairRuns.find? (·.covers c.toNat) with
    | some r =>
      have hcovers : r.covers c.toNat = true :=
        List.find?_some (p := (CaseRun.covers · c.toNat)) hlower
      exact .inr (.inl ⟨r, List.mem_of_find?_eq_some hlower, hcovers, rfl⟩)
    | none =>
      cases hupper : pairRuns.find? (fun r => r.forward ≤ c.toNat &&
        r.covers (c.toNat - r.forward)) with
      | some r =>
        have hfound : (decide (r.forward ≤ c.toNat) && r.covers (c.toNat - r.forward)) = true :=
          List.find?_some (p := fun r : CaseRun => r.forward ≤ c.toNat &&
            r.covers (c.toNat - r.forward)) hupper
        rw [Bool.and_eq_true] at hfound
        exact .inr (.inr (.inl ⟨r, List.mem_of_find?_eq_some hupper, hfound.2, rfl⟩))
      | none => exact .inr (.inr (.inr rfl))

theorem mem_caseClass (c : Char) : c ∈ caseClass c := by
  obtain ⟨members, -, hc, h⟩ | ⟨r, -, -, h⟩ | ⟨r, -, -, h⟩ | h := caseClass_cases c <;> rw [h]
  · exact List.mem_map.2 ⟨c.toNat, hc, Char.ofNat_toNat c⟩
  · exact List.mem_cons_self
  · exact List.mem_cons_of_mem _ List.mem_cons_self
  · exact List.mem_cons_self

variable {xs : List Nat} {c d : Char}

theorem eq_of_mem_caseClass (hxs : Uncased largeClasses pairRuns xs) (hd : d.toNat ∈ xs)
    (hzero : d.toNat ≠ 0) (h : d ∈ caseClass c) : d = c := by
  obtain ⟨members, hmembers, -, hc⟩ | ⟨r, hr, hcovers, hc⟩ | ⟨r, hr, hcovers, hc⟩ | hc :=
    caseClass_cases c <;>
    rw [hc] at h
  · obtain ⟨x, hx, rfl⟩ := List.mem_map.1 h
    rw [CaseMap.toNat_ofNat_of_ne hzero] at hd
    exact absurd hx (hxs.1 members hmembers x hd)
  · obtain rfl | h := List.mem_cons.1 h
    · rfl
    · obtain rfl := List.mem_singleton.1 h
      exact absurd (CaseMap.toNat_ofNat_of_ne hzero).symm ((hxs.2 r hr _ hd).ne_of_covers hcovers).2
  · obtain rfl | h := List.mem_cons.1 h
    · exact absurd (CaseMap.toNat_ofNat_of_ne hzero).symm ((hxs.2 r hr _ hd).ne_of_covers hcovers).1
    · exact List.mem_singleton.1 h
  · exact List.mem_singleton.1 h

theorem any_caseClass (hxs : Uncased largeClasses pairRuns xs) (hzero : 0 ∉ xs) {s : Char → Bool}
    (hs : ∀ d, s d = true → d.toNat ∈ xs) : (caseClass c).any s = s c := by
  rw [Bool.eq_iff_iff, List.any_eq_true]
  constructor
  · rintro ⟨d, hd, hsd⟩
    have hmem := hs d hsd
    rwa [← eq_of_mem_caseClass hxs hmem (fun h => hzero (h ▸ hmem)) hd]
  · exact fun hsc => ⟨c, mem_caseClass c, hsc⟩

def blanks : List Nat := [9, 10, 11, 12, 13, 32, 133, 160, 5760, 8192, 8193, 8194, 8195, 8196, 8197,
    8198, 8199, 8200,
  8201, 8202, 8232, 8233, 8239, 8287, 12288]

theorem toNat_mem_blanks (h : isBlank c = true) : c.toNat ∈ blanks := by
  have hrange (a b : Char) (h : (decide (a ≤ c) && decide (c ≤ b)) = true) :
      a.toNat ≤ c.toNat ∧ c.toNat ≤ b.toNat := by
    simpa [Char.le_def, UInt32.le_iff_toNat_le] using h
  simp only [isBlank, Bool.or_eq_true, beq_iff_eq] at h
  rcases h with
    (((((((((rfl | hcontrol) | rfl) | rfl) | rfl) | hspace) | rfl) | rfl) | rfl) | rfl) | rfl
  any_goals decide
  · have hlow : '\t'.toNat = 9 := rfl
    have hhigh : '\r'.toNat = 13 := rfl
    obtain ⟨hle, hge⟩ := hrange _ _ hcontrol
    simp only [blanks, List.mem_cons, List.not_mem_nil, or_false]
    omega
  · have hlow : '\u2000'.toNat = 8192 := rfl
    have hhigh : '\u200a'.toNat = 8202 := rfl
    obtain ⟨hle, hge⟩ := hrange _ _ hspace
    simp only [blanks, List.mem_cons, List.not_mem_nil, or_false]
    omega

def stops : List Nat := blanks ++ ['.', ',', '!', '?'].map Char.toNat

-- The literals are rewritten as lists of characters, so that they need not be decoded.
theorem uncased_stops : Uncased largeClasses pairRuns stops := by
  rw [largeClasses, largeClasses.table, CaseMap.tableEntries_ofList, pairRuns, pairRuns.table,
    CaseMap.tableEntries_ofList]
  decide +kernel

end Dictation.Character
