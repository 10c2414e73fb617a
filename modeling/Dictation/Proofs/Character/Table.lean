import Dictation.Character.Width
import Mathlib.Data.List.Basic

namespace Dictation.Character

section Rank

variable {a : Array Nat} {x y z lo hi i : Nat}

/-- A search between two indices ends where the entries stop being at most `x`. -/
theorem exists_rankIn_eq (hsorted : a.toList.Pairwise (· ≤ ·)) (hle : lo ≤ hi) (hsize : hi ≤ a.size)
    (hbelow : ∀ i (h : i < a.size), i < lo → a[i] ≤ x)
    (habove : ∀ i (h : i < a.size), hi ≤ i → x < a[i]) :
    ∃ r, rankIn a x lo hi = r ∧ (∀ i (h : i < a.size), i < r → a[i] ≤ x) ∧
      ∀ i (h : i < a.size), r ≤ i → x < a[i] := by
  have hmono (i j : Nat) (hj : j < a.size) (hij : i ≤ j) : a[i] ≤ a[j] := by
    obtain rfl | hlt := Nat.eq_or_lt_of_le hij
    · exact Nat.le_refl _
    · exact List.pairwise_iff_getElem.1 hsorted i j (Nat.lt_trans hlt hj) hj hlt
  revert hmono
  fun_induction rankIn a x lo hi with
  | case1 lo hi hlt mid hx ih =>
    intro hmono
    have hmid : mid < a.size := by omega
    rw [Array.getElem?_eq_getElem hmid, Option.getD_some] at hx
    refine ih (by omega) hsize (fun i h hi => ?_) habove hmono
    exact Nat.le_trans (hmono i mid hmid (by omega)) hx
  | case2 lo hi hlt mid hx ih =>
    intro hmono
    have hmid : mid < a.size := by omega
    rw [Array.getElem?_eq_getElem hmid, Option.getD_some, Nat.not_le] at hx
    refine ih (by omega) (by omega) hbelow (fun i h hi => ?_) hmono
    exact Nat.lt_of_lt_of_le hx (hmono mid i h hi)
  | case3 lo hi hlt =>
    intro _
    obtain rfl : lo = hi := by omega
    exact ⟨lo, rfl, hbelow, habove⟩

theorem rank_eq_succ (hsorted : a.toList.Pairwise (· ≤ ·)) (hy : a[i]? = some y)
    (hz : a[i + 1]? = some z) (hyx : y ≤ x) (hxz : x < z) : rank a x = i + 1 := by
  obtain ⟨hi, rfl⟩ := Array.getElem?_eq_some_iff.1 hy
  obtain ⟨hi', rfl⟩ := Array.getElem?_eq_some_iff.1 hz
  obtain ⟨r, hr, hbelow, habove⟩ := exists_rankIn_eq (x := x) hsorted (Nat.zero_le a.size)
    (Nat.le_refl _)
    (fun _ _ h => absurd h (Nat.not_lt_zero _)) (fun _ h h' => absurd h (Nat.not_lt.2 h'))
  rw [rank, hr]
  apply Nat.le_antisymm
  · by_contra hlt
    have := hbelow (i + 1) hi' (by omega)
    omega
  · by_contra hlt
    have := habove i hi (by omega)
    omega

end Rank

namespace CodeSet

def switchesFrom (start : Nat) : List Nat → List Nat
  | [] => []
  | d :: ds => (start + d) :: switchesFrom (start + d) ds

theorem le_of_mem_switchesFrom {start x : Nat} {ds : List Nat} (h : x ∈ switchesFrom start ds) :
    start ≤ x := by
  induction ds generalizing start with
  | nil => cases h
  | cons d ds ih =>
    obtain rfl | h := List.mem_cons.1 h
    · exact Nat.le_add_right _ _
    · exact Nat.le_trans (Nat.le_add_right _ _) (ih h)

theorem pairwise_switchesFrom (start : Nat) (ds : List Nat) :
    (switchesFrom start ds).Pairwise (· ≤ ·) := by
  induction ds generalizing start with
  | nil => exact .nil
  | cons d ds ih => exact .cons (fun _ h => le_of_mem_switchesFrom h) (ih _)

theorem toList_switches_ofSteps (steps : String) :
    (ofSteps steps).switches.toList = switchesFrom 0 (hexNumbers steps.toList) := by
  have hfold (a : Array Nat) (n : Nat) (ds : List Nat) :
      (ds.foldl (fun (acc : Array Nat × Nat) d => (acc.1.push (acc.2 + d), acc.2 + d))
        (a, n)).1.toList = a.toList ++ switchesFrom n ds := by
    induction ds generalizing a n with
    | nil => simp [switchesFrom]
    | cons d ds ih =>
      rw [List.foldl_cons, ih, Array.toList_push, switchesFrom, List.append_assoc,
        List.singleton_append]
  rw [ofSteps, hfold]
  rfl

/-- Between two switches that follow each other all characters belong to a set or none does. -/
theorem mem_ofSteps {steps : String} {i y z : Nat} {c : Char}
    (hy : (switchesFrom 0 (hexNumbers steps.toList))[i]? = some y)
    (hz : (switchesFrom 0 (hexNumbers steps.toList))[i + 1]? = some z) (hyc : y ≤ c.toNat)
    (hcz : c.toNat < z) :
    (ofSteps steps).mem c = ((i + 1) % 2 == 1) := by
  rw [← toList_switches_ofSteps, Array.getElem?_toList] at hy hz
  have hsorted := pairwise_switchesFrom 0 (hexNumbers steps.toList)
  rw [← toList_switches_ofSteps] at hsorted
  rw [mem, rank_eq_succ hsorted hy hz hyc hcz]

end CodeSet

namespace Category

def runsFrom : List Char → Option (Category × Nat) → Nat → List (Nat × Category)
  | [], none, _ => []
  | [], some (kind, length), position => [(position + max length 1, kind)]
  | c :: cs, run, position =>
    match ofLetter? c, run with
    | some kind, none => runsFrom cs (some (kind, 0)) position
    | some kind, some (closed, length) =>
      (position + max length 1, closed) :: runsFrom cs (some (kind, 0)) (position + max length 1)
    | none, run =>
      if c.isDigit then runsFrom cs (run.map fun r => (r.1, 10 * r.2 + (c.toNat - 48))) position
      else runsFrom cs run position

theorem toList_readRuns_go (cs : List Char) (run : Option (Category × Nat)) (position : Nat)
    (ends : Array Nat) (kinds : Array Category) :
    (readRuns.go cs run position ends kinds).1.toList =
      ends.toList ++ (runsFrom cs run position).map Prod.fst ∧
      (readRuns.go cs run position ends kinds).2.toList =
        kinds.toList ++ (runsFrom cs run position).map Prod.snd := by
  induction cs generalizing run position ends kinds with
  | nil => cases run <;> simp [readRuns.go, readRuns.close, runsFrom]
  | cons c cs ih =>
    cases hc : ofLetter? c with
    | none =>
      by_cases hdigit : c.isDigit = true
      · simp only [readRuns.go, runsFrom, hc, if_pos hdigit]
        exact ih _ _ _ _
      · simp only [readRuns.go, runsFrom, hc, if_neg hdigit]
        exact ih _ _ _ _
    | some kind => cases run <;> simp [readRuns.go, readRuns.close, runsFrom, hc, ih]

theorem toList_readRuns (cs : List Char) :
    (readRuns cs).1.toList = (runsFrom cs none 0).map Prod.fst ∧
      (readRuns cs).2.toList = (runsFrom cs none 0).map Prod.snd :=
  toList_readRuns_go cs none 0 #[] #[]

theorem le_of_mem_runsFrom {cs : List Char} {run : Option (Category × Nat)} {position : Nat}
    {r : Nat × Category} (h : r ∈ runsFrom cs run position) : position ≤ r.1 := by
  fun_induction runsFrom cs run position with
  | case1 => cases h
  | case2 =>
    obtain rfl := List.mem_singleton.1 h
    exact Nat.le_add_right _ _
  | case3 _ _ _ _ _ ih => exact ih h
  | case4 _ _ _ _ _ _ _ ih =>
    obtain rfl | h := List.mem_cons.1 h
    · exact Nat.le_add_right _ _
    · exact Nat.le_trans (Nat.le_add_right _ _) (ih h)
  | case5 _ _ _ _ _ _ ih => exact ih h
  | case6 _ _ _ _ _ _ ih => exact ih h

theorem pairwise_runsFrom (cs : List Char) (run : Option (Category × Nat)) (position : Nat) :
    ((runsFrom cs run position).map Prod.fst).Pairwise (· ≤ ·) := by
  fun_induction runsFrom cs run position with
  | case1 => exact .nil
  | case2 => exact List.pairwise_singleton _ _
  | case3 _ _ _ _ _ ih => exact ih
  | case4 _ _ _ _ _ _ _ ih =>
    refine .cons (fun x hx => ?_) ih
    obtain ⟨r, hr, rfl⟩ := List.mem_map.1 hx
    exact le_of_mem_runsFrom hr
  | case5 _ _ _ _ _ _ ih => exact ih
  | case6 _ _ _ _ _ _ ih => exact ih

theorem of_eq_of_run {i y z : Nat} {kind : Category} {c : Char}
    (hy : ((runsFrom runs.table.toList none 0)[i]?).map Prod.fst = some y)
    (hz : (runsFrom runs.table.toList none 0)[i + 1]? = some (z, kind)) (hyc : y ≤ c.toNat)
    (hcz : c.toNat < z) :
    of c = kind := by
  obtain ⟨hends, hkinds⟩ := toList_readRuns runs.table.toList
  have hend (j : Nat) : runs.1[j]? = ((runsFrom runs.table.toList none 0)[j]?).map Prod.fst := by
    rw [← List.getElem?_map, ← hends, Array.getElem?_toList, runs]
  have hkind : runs.2[i + 1]? = some kind := by
    rw [← Array.getElem?_toList, runs, hkinds, List.getElem?_map, hz, Option.map_some]
  have hsorted : runs.1.toList.Pairwise (· ≤ ·) := by
    rw [runs, hends]
    exact pairwise_runsFrom _ _ _
  have hz' : runs.1[i + 1]? = some z := by
    rw [hend, hz, Option.map_some]
  rw [of, rank_eq_succ hsorted ((hend i).trans hy) hz' hyc hcz, hkind, Option.getD_some]

end Category

end Dictation.Character
