import Dictation.Proofs.Pattern.Following
import Dictation.Replacement

namespace Dictation.Pattern

variable {p : Pattern} {t x y u v : Text} {i : Nat} {captures : List Capture} {f : Match → Text}

def matchOf (x u : Text) (captures : List Capture) : Match :=
  ⟨x.length, (x ++ u).length, captures.map Capture.span⟩

section First

theorem first?_eq_none (hno : ∀ x y, x ++ y = t → i ≤ x.length → ¬Fits p x y) :
    (p.search t).first? i = none := by
  have hleast : (p.search t).starts.leastFrom (t.length + 1 - i) i = none := by
    rw [Positions.leastFrom_eq_none_iff]
    intro k hik hk
    have hlen : (t.take k).length = k := List.length_take_of_le (by omega)
    have hsplit := List.take_append_drop k t
    have hfits := hno _ _ hsplit (by omega)
    rw [← mem_goal_iff, hsplit, hlen, Bool.not_eq_true] at hfits
    exact hfits
  rw [Search.first?]
  exact congrArg (Option.map _) hleast

theorem first?_eq_some (htakes : Takes p .empty x u v captures) (hi : i ≤ x.length)
    (hleast : ∀ x' y', x' ++ y' = x ++ u ++ v → i ≤ x'.length → Fits p x' y' →
      x.length ≤ x'.length) :
    (p.search (x ++ u ++ v)).first? i = some (matchOf x u captures) := by
  have hstart : (p.search (x ++ u ++ v)).starts.leastFrom ((x ++ u ++ v).length + 1 - i) i =
      some x.length := by
    apply Positions.leastFrom_eq_some
    · rw [List.append_assoc]
      exact mem_goal_iff.2 ⟨u, v, rfl, htakes.matched⟩
    · exact hi
    · simp only [List.length_append]
      omega
    · intro k hik hk
      have hlen : ((x ++ u ++ v).take k).length = k :=
        List.length_take_of_le (by simp only [List.length_append]; omega)
      have hsplit := List.take_append_drop k (x ++ u ++ v)
      have hno : ¬Fits p ((x ++ u ++ v).take k) ((x ++ u ++ v).drop k) := fun hfits => by
        have := hleast _ _ hsplit (by omega) hfits
        omega
      rw [← mem_goal_iff, hsplit, hlen, Bool.not_eq_true] at hno
      exact hno
  have hroute := htakes.route_eq []
  rw [List.append_nil] at hroute
  rw [Search.first?]
  refine (congrArg (Option.map _) hstart).trans (congrArg some ?_)
  exact congrArg (fun r : Progress => Match.mk x.length r.position r.groups) hroute

end First

section Replace

theorem next?_of_first? {s : Search} {m : Match} {last : Option Nat} (h : s.first? i = some m)
    (hne : m.start ≠ m.stop) : s.next? i last = some m := by
  simp [Search.next?, h, hne]

theorem replaceAll_of_next?
    (hmatch : (p.search (x ++ u ++ v)).next? 0 none = some (matchOf x u captures))
    (hnone : (p.search (x ++ u ++ v)).next? (x ++ u).length (some (x ++ u).length) = none) :
    p.replaceAll (x ++ u ++ v) f = x ++ f (matchOf x u captures) ++ v := by
  have hall : p.findAll (x ++ u ++ v) = [matchOf x u captures] := by
    have hstop : (matchOf x u captures).stop = (x ++ u).length := rfl
    simp only [findAll, Search.matchesFrom, hmatch, hstop, hnone]
  have hbefore : (x ++ u ++ v).take x.length = x := by simp
  have hafter : (x ++ u ++ v).drop (x ++ u).length = v := List.drop_left
  rw [replaceAll, hall]
  simp only [substitute, matchOf, List.drop_zero, Nat.sub_zero, hbefore, hafter]

theorem replaceAll_of_none (hno : ∀ x y, x ++ y = t → ¬Fits p x y) : p.replaceAll t f = t := by
  have hfirst : (p.search t).first? 0 = none := first?_eq_none fun x y htext _ => hno x y htext
  have hall : p.findAll t = [] := by
    rw [findAll, Search.matchesFrom, Search.next?, hfirst]
  rw [replaceAll, hall, substitute, List.drop_zero]

theorem replaceAll_of_takes (htakes : Takes p .empty x u v captures)
    (honly : ∀ x' y', x' ++ y' = x ++ u ++ v → Fits p x' y' → x.length ≤ x'.length ∧
      x'.length < (x ++ u).length) :
    p.replaceAll (x ++ u ++ v) f = x ++ f (matchOf x u captures) ++ v := by
  have hlt : x.length < (x ++ u).length :=
    (honly x (u ++ v) (by simp) ⟨u, v, rfl, htakes.matched⟩).2
  have hfirst : (p.search (x ++ u ++ v)).first? 0 = some (matchOf x u captures) :=
    first?_eq_some htakes (Nat.zero_le _) fun x' y' htext _ hfits => (honly x' y' htext hfits).1
  -- all matches start within the first one, so after it there are none
  have hsecond : (p.search (x ++ u ++ v)).first? (x ++ u).length = none :=
    first?_eq_none fun x' y' htext hle hfits => Nat.not_lt.2 hle (honly x' y' htext hfits).2
  have hmatch : (p.search (x ++ u ++ v)).next? 0 none = some (matchOf x u captures) :=
    next?_of_first? hfirst hlt.ne
  have hnone : (p.search (x ++ u ++ v)).next? (x ++ u).length (some (x ++ u).length) = none := by
    rw [Search.next?, hsecond]
  exact replaceAll_of_next? hmatch hnone

/-- The empty match at the end is passed over, since it touches the match before it. -/
theorem replaceAll_of_whole {ends : List Capture} (hne : t ≠ [])
    (htakes : Takes p .empty [] t [] captures) (hend : Takes p .empty t [] [] ends) :
    p.replaceAll t f = f (matchOf [] t captures) := by
  have htext : [] ++ t ++ [] = t := List.append_nil t
  have hlen : 0 < t.length := List.length_pos_iff.2 hne
  have hmatch : (p.search t).next? 0 none = some (matchOf [] t captures) := by
    refine next?_of_first? ?_ hlen.ne
    have hfirst := first?_eq_some htakes le_rfl fun _ _ _ _ _ => Nat.zero_le _
    rwa [htext] at hfirst
  have hnone : (p.search t).next? t.length (some t.length) = none := by
    have hleast : ∀ x y, x ++ y = t ++ [] ++ [] → t.length ≤ x.length → Fits p x y →
        t.length ≤ x.length :=
      fun _ _ _ hle _ => hle
    have hfirst := first?_eq_some hend le_rfl hleast
    have hbeyond : (p.search t).first? (t.length + 1) = none := by
      refine first?_eq_none fun x y hxy hle => ?_
      have hlen := congrArg List.length hxy
      rw [List.length_append] at hlen
      omega
    rw [List.append_nil, List.append_nil] at hfirst
    simp [Search.next?, hfirst, matchOf, hbeyond]
  have hreplaced := replaceAll_of_next? (p := p) (x := []) (v := []) (f := f)
    (by rwa [htext]) (by rwa [htext])
  rwa [htext, List.nil_append, List.append_nil] at hreplaced

end Replace

section Groups

theorem Capture.slice {c : Capture} (h : c.before ++ c.text <+: t) :
    (t.drop c.before.length).take ((c.before ++ c.text).length - c.before.length) = c.text := by
  obtain ⟨r, rfl⟩ := h
  have hlen : (c.before ++ c.text).length - c.before.length = c.text.length := by simp
  rw [hlen, List.append_assoc, List.drop_left, List.take_left]

theorem group?_matchOf {index : Nat} (hne : index ≠ 0)
    (hinside : ∀ c ∈ captures, c.before ++ c.text <+: t) :
    (matchOf x u captures).group? t index =
      (captures.find? (·.index == index)).map Capture.text := by
  rw [Match.group?, if_neg hne, matchOf, List.find?_map, Option.map_map]
  refine Option.map_congr fun c hc => ?_
  exact Capture.slice (hinside c (List.mem_of_find?_eq_some hc))

end Groups

end Dictation.Pattern
