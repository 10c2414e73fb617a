import Dictation.Proofs.Rule.File
import Dictation.Proofs.Text.Lines
import Dictation.Proofs.Text.Trim
import Mathlib.Logic.Relation

namespace Dictation

namespace RuleSet

variable {a b set : RuleSet} {r : Rule}

def shift (k : Nat) (set : RuleSet) : RuleSet where
  rules := set.rules.map fun r => { r with line := r.line + k }
  warnings := set.warnings.map fun w => { w with line := w.line + k }

def unnumbered (set : RuleSet) : List (Text × Action) × List Problem :=
  (set.rules.map fun r => (r.trigger, r.action), set.warnings.map (·.problem))

theorem shift_append (k : Nat) (a b : RuleSet) :
    (a.append b).shift k = (a.shift k).append (b.shift k) := by
  simp only [shift, append, List.map_append]

theorem unnumbered_append (a b : RuleSet) : (a.append b).unnumbered =
    (a.unnumbered.1 ++ b.unnumbered.1, a.unnumbered.2 ++ b.unnumbered.2) := by
  simp only [unnumbered, append, List.map_append]

theorem unnumbered_shift (k : Nat) (set : RuleSet) : (set.shift k).unnumbered = set.unnumbered := by
  simp only [unnumbered, shift, List.map_map, Function.comp_def]

theorem ofRule_shift (r : Rule) (k : Nat) :
    ofRule { r with line := r.line + k } = (ofRule r).shift k := by
  have hwarnings : (ofRule { r with line := r.line + k }).warnings =
    ((ofRule r).shift k).warnings := by
    rw [warnings_ofRule, shift, warnings_ofRule, List.map_append, apply_ite (List.map _),
      apply_ite (List.map _)]
    rfl
  exact congrArg (RuleSet.mk _) hwarnings

end RuleSet

namespace RuleFile

open Character (isBlank)

variable {line a b t u : Text} {lines rest : List Text} {number n k : Nat}

section Shift

theorem readLine_shift (number n k : Nat) (line : Text) :
    readLine number (n + k) line = (readLine number n line).shift k := by
  rw [readLine, readLine]
  split_ifs
  · rw [readEntry, readEntry]
    cases entry number line with
    | error p => rfl
    | ok a => exact RuleSet.ofRule_shift ⟨a.1, a.2, n⟩ k
  · rfl

theorem readLines_shift (number n k : Nat) (lines : List Text) :
    readLines number (n + k) lines = (readLines number n lines).shift k := by
  induction lines generalizing number n with
  | nil => rfl
  | cons line rest ih =>
    rw [readLines_cons, readLines_cons, RuleSet.shift_append, readLine_shift, Nat.add_right_comm,
      ih]

theorem unnumbered_readLine (number n : Nat) (line : Text) :
    (readLine number n line).unnumbered = (readLine number 0 line).unnumbered := by
  rw [← Nat.zero_add n, readLine_shift, RuleSet.unnumbered_shift]

theorem unnumbered_readLines (number n : Nat) (lines : List Text) :
    (readLines number n lines).unnumbered = (readLines number 0 lines).unnumbered := by
  rw [← Nat.zero_add n, readLines_shift, RuleSet.unnumbered_shift]

theorem readLines_of_opens (h : Opens line.trim k) (number m n : Nat) (rest : List Text) :
    readLines number n (line :: rest) = readLines m n (line :: rest) := by
  have hopens : section? line.trim = some k := section?_eq_some_iff.2 h
  rw [readLines_cons, readLines_cons, openAfter_singleton, openAfter_singleton, readLine, readLine,
    hopens]
  rfl

end Shift

section Layout

/-- A line that gives nothing and opens nothing: it is blank, a comment, or without an equals sign
and no opening of a section. -/
def IsLayout (line : Text) : Prop :=
  (∀ c ∈ line, isBlank c = true) ∨ line.trim.head? = some '#' ∨ '=' ∉ line ∧
    ∀ number, ¬Opens line.trim number

/-- Two texts that differ in one line of layout, or in spaces, tabs and returns at the end of one
line. -/
inductive Relaid : Text → Text → Prop
  | line {a line : Text} (b : Text) (ha : a = [] ∨ a.getLast? = some '\n') (hline : '\n' ∉ line)
    (hl : IsLayout line) : Relaid (a ++ b) (a ++ line ++ '\n' :: b)
  | lastLine {line : Text} (a : Text) (hline : '\n' ∉ line) (hl : IsLayout line) :
      Relaid a (a ++ '\n' :: line)
  | blanks {w b : Text} (a : Text) (hb : b = [] ∨ b.head? = some '\n')
      (hw : ∀ c ∈ w, c = ' ' ∨ c = '\t' ∨ c = '\r') :
    Relaid (a ++ b) (a ++ w ++ b)

def isSignificant (line : Text) : Bool := (section? line).isSome || isEntry line

def significant (lines : List Text) : List Text := (lines.map Text.trim).filter isSignificant

theorem significant_append (a b : List Text) :
    significant (a ++ b) = significant a ++ significant b := by
  rw [significant, List.map_append, List.filter_append, significant, significant]

theorem significant_congr {a b : List Text} (h : a.map Text.trim = b.map Text.trim) :
    significant a = significant b := by
  rw [significant, h, significant]

theorem significant_of_isLayout (h : IsLayout line) : significant [line] = [] := by
  have hnone : section? line.trim = none ∧ isEntry line.trim = false := by
    rcases h with h | h | ⟨hequals, hopens⟩
    · rw [Text.trim_eq_nil_iff.2 h]
      exact ⟨rfl, rfl⟩
    · obtain ⟨r, hr⟩ := List.head?_eq_some_iff.1 h
      rw [hr]
      exact ⟨rfl, rfl⟩
    · have hequals' : '=' ∉ line.trim := fun hm => hequals ((Text.trim_sublist line).subset hm)
      exact ⟨section?_eq_none_iff.2 hopens, by simp [isEntry, hequals']⟩
  simp [significant, isSignificant, hnone.1, hnone.2]

/-- What lines say depends on those alone that are no layout. -/
theorem unnumbered_readLines_significant (number n : Nat) (lines : List Text) :
    (readLines number n lines).unnumbered =
      (readLines number 0 (significant lines)).unnumbered := by
  induction lines generalizing number n with
  | nil => rfl
  | cons line rest ih =>
    by_cases hline : isSignificant line.trim = true
    · have hcons : significant (line :: rest) = line.trim :: significant rest := by
        rw [significant, List.map_cons, List.filter_cons_of_pos hline, significant]
      rw [hcons, readLines_cons, readLines_cons, RuleSet.unnumbered_append,
        RuleSet.unnumbered_append, Text.trim_trim,
        openAfter_singleton, openAfter_singleton, Text.trim_trim, ih,
          unnumbered_readLines _ (0 + 1), unnumbered_readLine]
    · have hcons : significant (line :: rest) = significant rest := by
        rw [significant, List.map_cons, List.filter_cons_of_neg hline, significant]
      simp only [isSignificant, Bool.or_eq_true, not_or, Option.not_isSome_iff_eq_none] at hline
      rw [hcons, readLines_cons, openAfter_singleton, hline.1, readLine,
        if_neg fun h => hline.2 h.2, RuleSet.empty_append, Option.getD_none, ih]

end Layout

section Pieces

open Text (pieces)

theorem trim_dropReturn (t : Text) : t.dropReturn.trim = t.trim := by
  rw [Text.dropReturn]
  split_ifs with h
  · obtain ⟨s, rfl⟩ := List.getLast?_eq_some_iff.1 h
    rw [List.dropLast_concat, Text.trim_append_of_blank (List.forall_mem_singleton.2 rfl)]
  · rfl

theorem significant_lines (t : Text) : significant t.lines = significant (pieces '\n' t) := by
  rcases List.eq_nil_or_concat (pieces '\n' t) with h | ⟨ps, p, h⟩
  · exact absurd h (Text.pieces_ne_nil '\n' t)
  · rw [List.concat_eq_append] at h
    have hreturns : significant (ps.map Text.dropReturn) = significant ps := by
      apply significant_congr
      rw [List.map_map]
      exact List.map_congr_left fun l _ => trim_dropReturn l
    have hlast : significant (if p.isEmpty then [] else [p]) = significant [p] := by
      cases p with
      | nil => rfl
      | cons c p => rfl
    rw [Text.lines, h, List.dropLast_concat, List.getLast?_concat, Option.getD_some,
      significant_append, hreturns, hlast, significant_append]

theorem map_trim_pieces (hb : ∀ c ∈ b, c = ' ' ∨ c = '\t' ∨ c = '\r') (a : Text) :
    (pieces '\n' (a ++ b)).map Text.trim = (pieces '\n' a).map Text.trim := by
  have hblank : ∀ c ∈ b, isBlank c = true := fun c hc => by
    rcases hb c hc with rfl | rfl | rfl <;> rfl
  have hnewline : '\n' ∉ b := fun h => absurd (hb _ h) (by decide)
  have hlast {p : Text} (hp : '\n' ∉ p) :
      (pieces '\n' (p ++ b)).map Text.trim = (pieces '\n' p).map Text.trim := by
    rw [Text.pieces_of_notMem (by simp [hp, hnewline]), Text.pieces_of_notMem hp,
      List.map_singleton, List.map_singleton, Text.trim_append_of_blank hblank]
  -- only what stands behind the last newline becomes longer
  by_cases ha : '\n' ∈ a
  · obtain ⟨p, q, hpq, hp⟩ := List.eq_append_cons_of_mem (List.mem_reverse.2 ha)
    obtain rfl : a = q.reverse ++ '\n' :: p.reverse := by simpa using congrArg List.reverse hpq
    rw [List.append_assoc, List.cons_append, Text.pieces_append_separator,
      Text.pieces_append_separator, List.map_append, List.map_append, hlast (by simpa using hp)]
  · exact hlast ha

theorem significant_of_relaid (h : Relaid t u) :
    significant (pieces '\n' t) = significant (pieces '\n' u) := by
  cases h with
  | @line a line b ha hline hl =>
    have hpieces : significant (pieces '\n' (line ++ '\n' :: b)) = significant (pieces '\n' b) := by
      rw [Text.pieces_append_cons hline, ← List.singleton_append, significant_append,
        significant_of_isLayout hl, List.nil_append]
    rcases ha with rfl | ha
    · exact hpieces.symm
    · obtain ⟨s, rfl⟩ := List.getLast?_eq_some_iff.1 ha
      have hbehind (b : Text) : s ++ ['\n'] ++ b = s ++ '\n' :: b :=
        (List.append_cons s '\n' b).symm
      rw [List.append_assoc (s ++ ['\n']), hbehind, hbehind, Text.pieces_append_separator,
        Text.pieces_append_separator, significant_append, significant_append, hpieces]
  | @lastLine line a hline hl =>
    rw [Text.pieces_append_separator, significant_append, Text.pieces_of_notMem hline,
      significant_of_isLayout hl, List.append_nil]
  | @blanks w b a hb hw =>
    apply significant_congr
    rcases hb with rfl | hb
    · rw [List.append_nil, List.append_nil, map_trim_pieces hw]
    · obtain ⟨s, rfl⟩ := List.head?_eq_some_iff.1 hb
      rw [Text.pieces_append_separator, Text.pieces_append_separator, List.map_append,
        List.map_append, map_trim_pieces hw]

end Pieces

end RuleFile

namespace RuleSet

open RuleFile

/-- Files that differ in their layout give the same triggers and actions in the same order, and the
same problems. A file that begins with a section gives behind any lines what it gives alone, with
the line numbers moved. -/
theorem layout_unseen :
    (∀ t u, Relation.EqvGen Relaid t u → (read t).unnumbered = (read u).unnumbered) ∧
    ∀ (a b first : Text) (rest : List Text) (number : Nat), (a = [] ∨ a.getLast? = some '\n') →
      b.lines = first :: rest → Opens first.trim number →
        read (a ++ b) = (read a).append ((read b).shift a.lines.length) := by
  constructor
  · intro t u h
    induction h with
    | rel t u h =>
      rw [read, read, unnumbered_readLines_significant,
        unnumbered_readLines_significant 1 1 u.lines, significant_lines, significant_lines,
        significant_of_relaid h]
    | refl t => rfl
    | symm t u _ ih => exact ih.symm
    | trans t u v _ _ htu huv => exact htu.trans huv
  · intro a b first rest number ha hb hopens
    rw [read, read, read, Text.lines_append ha, readLines_append, hb, readLines_of_opens hopens _ 1,
      readLines_shift]

theorem layout_unseen_around_entry :
    let t : Text := ['1', '.', '\n', 'x', '=', 'y']
    let u : Text := ['#', '=', '\n', '1', '.', '\t', '\r', '\n', 'n', 'o', '\n', 'x', '=', 'y']
    let a : Text := ['2', '.', '\n', '#', '\n']
    (Relation.EqvGen Relaid t u ∧ (read t).unnumbered = (read u).unnumbered) ∧
    (a.getLast? = some '\n' ∧ t.lines = [['1', '.'], ['x', '=', 'y']] ∧
      Opens (Text.trim ['1', '.']) 1) ∧
    read (a ++ t) = ⟨[], [⟨4, .unknownCommand ['y'] ['x']⟩]⟩ := by
  intro t u a
  have hopens : Opens (Text.trim ['1', '.']) 1 := section?_eq_some_iff.1 rfl
  have hcomment : IsLayout ['#', '='] := .inr (.inl rfl)
  have hword : IsLayout ['n', 'o'] := .inr (.inr ⟨by decide, section?_eq_none_iff.1 rfl⟩)
  have hline : Relaid t ['1', '.', '\n', 'n', 'o', '\n', 'x', '=', 'y'] :=
    .line (a := ['1', '.', '\n']) ['x', '=', 'y'] (.inr rfl) (by decide) hword
  have hblanks : Relaid ['1', '.', '\n', 'n', 'o', '\n', 'x', '=', 'y']
      ['1', '.', '\t', '\r', '\n', 'n', 'o', '\n', 'x', '=', 'y'] :=
    .blanks (b := ['\n', 'n', 'o', '\n', 'x', '=', 'y']) (w := ['\t', '\r']) ['1', '.'] (.inr rfl)
      (by simp)
  have habove : Relaid ['1', '.', '\t', '\r', '\n', 'n', 'o', '\n', 'x', '=', 'y'] u :=
    .line (a := []) _ (.inl rfl) (by decide) hcomment
  have hsame : Relation.EqvGen Relaid t u :=
    .trans _ _ _ (.rel _ _ hline) (.trans _ _ _ (.rel _ _ hblanks) (.rel _ _ habove))
  have hlines : t.lines = [['1', '.'], ['x', '=', 'y']] := by decide
  refine ⟨⟨hsame, layout_unseen.1 t u hsame⟩, ⟨by decide, hlines, hopens⟩, ?_⟩
  rw [layout_unseen.2 a t _ _ 1 (.inr (by decide)) hlines hopens]
  decide

end RuleSet

end Dictation
