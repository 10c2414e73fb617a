import Dictation.Proofs.Pattern.Replacing
import Dictation.Proofs.Pattern.Suffix.Basic
import Dictation.Proofs.Text.Replace

namespace Dictation.Pattern

variable {f : Flags} {old new t x y z : Text} {c : Char}

/-- The characters that a pattern gives a meaning to where a part of it begins. -/
def metacharacters : Text := ['(', ')', '|', '[', '?', '*', '+', '\x7b', '\\', '.', '^', '$']

def ofText (t : Text) : Pattern := .sequence (t.map fun c => .one (· == c))

namespace Reading

variable {s : Reading} {n : Nat}

theorem step?_of_notMem (hc : c ∉ metacharacters) (t : Text) :
    s.step? c t = some (s.addNode (literal s.flags c), t) := by
  unfold step?
  split
  case h_13 => rfl
  all_goals exact absurd (by decide) hc

def addText (s : Reading) (t : Text) : Reading :=
  t.foldl (fun s c => s.addNode (literal s.flags c)) s

theorem run?_of_forall_notMem (hs : s.flags.verbose = false) (ht : ∀ c ∈ t, c ∉ metacharacters)
    (hn : t.length < n) : run? n s t = some (s.addText t) := by
  induction t generalizing n s with
  | nil =>
    obtain _ | n := n
    · exact absurd hn (Nat.not_lt_zero _)
    rw [run?, skip_of_not_verbose hs]
    rfl
  | cons c t ih =>
    obtain ⟨hc, ht⟩ := List.forall_mem_cons.1 ht
    obtain _ | n := n
    · exact absurd hn (Nat.not_lt_zero _)
    rw [run?, skip_of_not_verbose hs]
    dsimp only
    rw [step?_of_notMem hc, Option.bind_some]
    exact ih (s := s.addNode (literal s.flags c)) hs ht (Nat.lt_of_succ_lt_succ hn)

theorem addText_eq (s : Reading) (t : Text) : s.addText t = { s with inside := { s.inside with
    parts := (t.map fun c => .node (literal s.flags c)).reverse ++ s.inside.parts } } := by
  induction t generalizing s with
  | nil => rfl
  | cons c t ih =>
    rw [addText, List.foldl_cons, ← addText, ih]
    simp [addNode, Inside.add]

theorem literal_eq (hf : f.ignoreCase = false) (c : Char) :
    literal f c = ⟨.one (· == c), 0, 32 * c.utf8Size⟩ := by
  have hsame : f.sameAs c = [c] := by
    rw [Flags.sameAs, hf]
    rfl
  rw [literal, Flags.literal, hsame, List.foldl_cons, List.foldl_nil, Nat.zero_add]

end Reading

section Reads

open Reading

def nodesOf (t : Text) : List Node := t.map fun c => ⟨.one (· == c), 0, 32 * c.utf8Size⟩

theorem totalWeight_nodesOf (t : Text) : totalWeight (nodesOf t) = 32 * t.size := by
  have hfold (n : Nat) : (nodesOf t).foldl (fun weight n => weight + n.weight) n =
      n + 32 * t.size := by
    induction t generalizing n with
    | nil => rfl
    | cons c t ih =>
      rw [nodesOf, List.map_cons, List.foldl_cons, ← nodesOf, ih, Text.size_cons, Nat.mul_add,
        Nat.add_assoc]
  rw [totalWeight, hfold, Nat.zero_add]

theorem toNode_of_parts (t : Text) : Inside.toNode ⟨[], (nodesOf t).reverse.map .node⟩ =
    ⟨ofText t, if t.length ≤ 1 then 0 else 1, 32 * t.size⟩ := by
  have hnodes : (((nodesOf t).reverse.map Part.node).filterMap Part.node?).reverse = nodesOf t := by
    rw [List.filterMap_map]
    simp [Function.comp_def, Part.node?]
  have hdepth : ((nodesOf t).map Node.depth).foldl max 0 = 0 := by
    clear hnodes
    induction t with
    | nil => rfl
    | cons c t ih => exact ih
  have hpattern : (nodesOf t).map Node.pattern = t.map fun c => .one (· == c) := by simp [nodesOf]
  have hlength : ((nodesOf t).reverse.map Part.node).length = t.length := by simp [nodesOf]
  simp only [Inside.toNode, List.isEmpty_nil, if_true, Inside.sequence, hnodes, hdepth, hpattern,
    hlength, totalWeight_nodesOf, Nat.zero_add, ofText]

/-- A text without metacharacters is read as itself, or it is too heavy. -/
theorem read?_of_forall_notMem (hverbose : f.verbose = false) (hcase : f.ignoreCase = false)
    (ht : ∀ c ∈ t, c ∉ metacharacters) :
    read? f t = if 32 * t.size ≤ weightLimit then some ⟨ofText t, []⟩ else none := by
  have hparts : (t.map fun c => Part.node (literal f c)).reverse =
      (nodesOf t).reverse.map .node := by
    simp only [literal_eq hcase, nodesOf, List.map_reverse, List.map_map, Function.comp_def]
  have hdepth : (if t.length ≤ 1 then 0 else 1) ≤ depthLimit := by split <;> decide
  rw [read?, run?_of_forall_notMem hverbose ht (Nat.lt_succ_self _), Option.bind_some, addText_eq]
  simp only [hparts, List.append_nil, toNode_of_parts, List.isEmpty_nil, decide_eq_true hdepth,
    Bool.true_and, decide_eq_true_iff]

end Reads

section Matching

variable {k p : Pattern}

theorem matches_sequence_cons {ps : List Pattern} :
    Matches (.sequence (p :: ps)) x y z ↔ Matches (.seq p (.sequence ps)) x y z := by
  obtain _ | ⟨q, ps⟩ := ps
  · rw [matches_seq_iff]
    simp [Shape.sequence, matches_empty_iff]
  · rfl

theorem matches_ofText_iff : Matches (ofText t) x y z ↔ y = t := by
  induction t generalizing x y with
  | nil => exact matches_empty_iff
  | cons c t ih =>
    rw [ofText, List.map_cons, matches_sequence_cons, ← ofText, matches_seq_iff]
    simp only [matches_one_iff, beq_iff_eq, ih]
    constructor
    · rintro ⟨_, _, rfl, ⟨_, rfl, rfl⟩, rfl⟩
      rfl
    · rintro rfl
      exact ⟨[c], t, rfl, ⟨c, rfl, rfl⟩, rfl⟩

theorem fits_ofText_iff : Fits (ofText t) x y ↔ t <+: y := by
  simp only [Fits, matches_ofText_iff]
  constructor
  · rintro ⟨_, v, rfl, rfl⟩
    exact List.prefix_append _ v
  · rintro ⟨v, rfl⟩
    exact ⟨t, v, rfl, rfl⟩

theorem takes_ofText (hne : t ≠ []) : Takes (ofText t) k x t z [] := by
  obtain ⟨c, t, rfl⟩ := List.exists_cons_of_ne_nil hne
  induction t generalizing c x with
  | nil => exact takes_char c
  | cons d t ih => exact (takes_char c).seq (ih d (List.cons_ne_nil d t))

end Matching

section Replacing

variable {g : Match → Text} {s r : Text} {n : Nat}

theorem exists_of_length_le {v w : Text} (h : w ++ v = x ++ y) (hle : x.length ≤ w.length) :
    ∃ m, w = x ++ m ∧ m ++ v = y := by
  obtain ⟨m, rfl⟩ := List.prefix_of_prefix_length_le (List.prefix_append x y)
    (h ▸ List.prefix_append w v) hle
  rw [List.append_assoc, List.append_cancel_left_eq] at h
  exact ⟨m, rfl, h⟩

theorem next?_ofText_eq_none (hno : ¬old <:+: y) (last : Option Nat) :
    ((ofText old).search (x ++ y)).next? x.length last = none := by
  have hfirst : ((ofText old).search (x ++ y)).first? x.length = none := by
    refine first?_eq_none fun w v hwv hle hfits => ?_
    obtain ⟨m, -, rfl⟩ := exists_of_length_le hwv hle
    exact hno ((fits_ofText_iff.1 hfits).isInfix.trans (List.suffix_append m v).isInfix)
  rw [Search.next?, hfirst]

theorem next?_ofText_eq_some (hne : old ≠ [])
    (hleast : ∀ u v, u ++ v = s ++ old ++ r → old <+: v → s.length ≤ u.length) (last : Option Nat) :
    ((ofText old).search (x ++ s ++ old ++ r)).next? x.length last =
      some (matchOf (x ++ s) old []) := by
  refine next?_of_first? (first?_eq_some (takes_ofText hne)
    (by simp) fun w v hwv hle hfits => ?_) ?_
  · rw [List.append_assoc, List.append_assoc x, ← List.append_assoc s] at hwv
    obtain ⟨m, rfl, hmv⟩ := exists_of_length_le hwv hle
    simpa using hleast m v hmv (fits_ofText_iff.1 hfits)
  · simpa [matchOf] using hne

/-- From a position on the matches are the occurrences in what is left. -/
theorem substitute_matchesFrom (hne : old ≠ []) (hg : ∀ m, g m = new) (last : Option Nat)
    (hn : y.length < n) :
    substitute (x ++ y) g x.length (((ofText old).search (x ++ y)).matchesFrom n x.length last) =
      Text.replaceEach old new y := by
  induction n generalizing x y last with
  | zero => exact absurd hn (Nat.not_lt_zero _)
  | succ n ih =>
    obtain hno | ⟨s, r, rfl, hleast⟩ := Text.exists_first_occurrence hne y
    · rw [Search.matchesFrom, next?_ofText_eq_none hno, Text.replaceEach_of_not_infix hno]
      exact List.drop_left
    · have hpos : 0 < old.length := List.length_pos_iff.2 hne
      have hlen : r.length < n := by
        rw [List.length_append, List.length_append] at hn
        omega
      have hrest := ih (x := x ++ s ++ old) (some (x ++ s ++ old).length) hlen
      have hbefore : ((x ++ s ++ old ++ r).drop x.length).take ((x ++ s).length - x.length) =
          s := by simp
      have htext : x ++ (s ++ old ++ r) = x ++ s ++ old ++ r := by simp
      rw [htext, Search.matchesFrom, next?_ofText_eq_some hne hleast,
        Text.replaceEach_of_first hne hleast, ← hrest]
      simp only [substitute, matchOf, hg, hbefore]

theorem replaceAll_ofText (hne : old ≠ []) (hg : ∀ m, g m = new) (t : Text) :
    (ofText old).replaceAll t g = Text.replaceEach old new t :=
  substitute_matchesFrom (x := []) hne hg none (by omega)

end Replacing

end Dictation.Pattern
