import Dictation.Proofs.Rule.File
import Dictation.Proofs.Text.Lines
import Dictation.Proofs.Text.Split
import Dictation.Proofs.Text.Trim

namespace Dictation

namespace Text

open Character (isBlank)

variable {s t separator : Text} {c : Char} {ls : List Text}

section Lines

def unlines (ls : List Text) : Text := ls.flatMap (· ++ ['\n'])

/-- A text that is one line, whatever newline comes after it. -/
def IsLine (l : Text) : Prop := '\n' ∉ l ∧ l.getLast? ≠ some '\r'

theorem unlines_cons (l : Text) (ls : List Text) : unlines (l :: ls) = l ++ '\n' :: unlines ls := by
  rw [unlines, List.flatMap_cons, List.append_assoc, List.singleton_append, ← unlines]

theorem unlines_concat (ls : List Text) (l : Text) :
    unlines (ls ++ [l]) = unlines ls ++ l ++ ['\n'] := by
  rw [unlines, List.flatMap_append, List.flatMap_singleton, ← List.append_assoc, ← unlines]

theorem pieces_unlines_append (hls : ∀ l ∈ ls, IsLine l) (ht : '\n' ∉ t) :
    pieces '\n' (unlines ls ++ t) = ls ++ [t] := by
  induction ls with
  | nil => exact pieces_of_notMem ht
  | cons l ls ih =>
    obtain ⟨hl, hls⟩ := List.forall_mem_cons.1 hls
    rw [unlines_cons, List.append_assoc, List.cons_append, pieces_append_cons hl.1, ih hls,
      List.cons_append]

theorem lines_unlines_append (hls : ∀ l ∈ ls, IsLine l) (ht : '\n' ∉ t) :
    lines (unlines ls ++ t) = ls ++ if t.isEmpty then [] else [t] := by
  have hreturns : ls.map dropReturn = ls := by
    conv_rhs => rw [← List.map_id ls]
    exact List.map_congr_left fun l hl => if_neg (hls l hl).2
  rw [lines, pieces_unlines_append hls ht, List.dropLast_concat, hreturns, List.getLast?_concat,
    Option.getD_some]

theorem lines_of_unlines (hls : ∀ l ∈ ls, IsLine l) (hne : [] ∉ ls)
    (ht : t = unlines ls ∨ t ++ ['\n'] = unlines ls) : t.lines = ls := by
  rcases ht with rfl | ht
  · have := lines_unlines_append hls List.not_mem_nil
    rwa [List.append_nil, List.isEmpty_nil, if_pos rfl, List.append_nil] at this
  · rcases List.eq_nil_or_concat ls with rfl | ⟨ls, l, rfl⟩
    · cases t <;> cases ht
    · rw [List.concat_eq_append] at *
      rw [unlines_concat] at ht
      obtain rfl := List.append_inj_left' ht rfl
      rw [List.forall_mem_append] at hls
      rw [List.mem_append, not_or] at hne
      have hl : l.isEmpty = false := List.isEmpty_eq_false_iff.2 fun h =>
        hne.2 (h ▸ List.mem_singleton_self _)
      rw [lines_unlines_append hls.1 (List.forall_mem_singleton.1 hls.2).1, hl,
        if_neg Bool.false_ne_true]

end Lines

section Newlines

def encodeNewlines (t : Text) : Text := t.flatMap fun c => if c = '\n' then ['\\', 'n'] else [c]

theorem encodeNewlines_newline (t : Text) :
    encodeNewlines ('\n' :: t) = '\\' :: 'n' :: encodeNewlines t := rfl

theorem encodeNewlines_cons_of_ne (h : c ≠ '\n') (t : Text) :
    encodeNewlines (c :: t) = c :: encodeNewlines t := by
  rw [encodeNewlines, List.flatMap_cons, if_neg h]
  rfl

theorem head?_encodeNewlines (h : (encodeNewlines t).head? = some 'n') : t.head? = some 'n' := by
  cases t with
  | nil => cases h
  | cons c t =>
    by_cases hc : c = '\n'
    · subst hc
      exact absurd (Option.some.inj h) (by decide)
    · rwa [encodeNewlines_cons_of_ne hc] at h

theorem decodeNewlines_cons (h : ¬(c = '\\' ∧ t.head? = some 'n')) :
    decodeNewlines (c :: t) = c :: decodeNewlines t := by
  cases t with
  | nil => rfl
  | cons d t =>
    rw [decodeNewlines, if_neg fun hcd => h ⟨hcd.1, congrArg some hcd.2⟩]

theorem decodeNewlines_encodeNewlines (h : ¬['\\', 'n'] <:+: t) :
    decodeNewlines (encodeNewlines t) = t := by
  induction t with
  | nil => rfl
  | cons c t ih =>
    have ht : ¬['\\', 'n'] <:+: t := fun hi => h (hi.trans (List.suffix_cons c t).isInfix)
    by_cases hc : c = '\n'
    · subst hc
      rw [encodeNewlines_newline, decodeNewlines, if_pos ⟨rfl, rfl⟩, ih ht]
    · rw [encodeNewlines_cons_of_ne hc, decodeNewlines_cons, ih ht]
      rintro ⟨rfl, hn⟩
      obtain ⟨u, rfl⟩ := List.head?_eq_some_iff.1 (head?_encodeNewlines hn)
      exact h ⟨[], u, rfl⟩

theorem notMem_encodeNewlines (t : Text) : '\n' ∉ encodeNewlines t := by
  rw [encodeNewlines, List.mem_flatMap]
  rintro ⟨c, -, hc⟩
  split_ifs at hc with h
  · revert hc
    decide
  · exact h (List.mem_singleton.1 hc).symm

theorem getLast?_encodeNewlines (h : (encodeNewlines t).getLast? = some c) (hc : isBlank c) :
    t.getLast? = some c ∧ c ≠ '\n' := by
  rcases List.eq_nil_or_concat t with rfl | ⟨u, d, rfl⟩
  · cases h
  · rw [List.concat_eq_append, encodeNewlines, List.flatMap_append, List.flatMap_singleton] at h
    split_ifs at h with hd
    · rw [List.getLast?_append, List.getLast?_cons_cons, List.getLast?_singleton,
        Option.some_or] at h
      obtain rfl := Option.some.inj h
      exact absurd hc (by decide)
    · rw [List.getLast?_concat] at h
      obtain rfl := Option.some.inj h
      exact ⟨List.concat_eq_append ▸ List.getLast?_concat, hd⟩

end Newlines

section Separator

theorem splitOnce_separator (hcolons : ¬RuleFile.separator <:+: s) (hlast : s.getLast? ≠ some ':')
    (t : Text) : splitOnce (s ++ RuleFile.separator ++ t) RuleFile.separator = some (s, t) := by
  apply splitOnce_append (List.cons_ne_nil ':' _)
  rintro u v rfl hv hp
  have hv' : v <+: v ++ RuleFile.separator ++ t := ⟨_, (List.append_assoc v _ t).symm⟩
  rcases Nat.lt_or_ge v.length RuleFile.separator.length with hlt | hge
  · -- The separator would begin within what is left of the first part and so take its last
    -- character.
    have hsub : v ⊆ RuleFile.separator :=
      (List.prefix_of_prefix_length_le hv' hp (Nat.le_of_lt hlt)).subset
    have hcolon : v.getLast hv = ':' := by
      simpa [RuleFile.separator] using hsub (List.getLast_mem hv)
    exact hlast (by rw [List.getLast?_append_of_ne_nil u hv, List.getLast?_eq_some_getLast hv,
      hcolon])
  · exact hcolons ((List.prefix_of_prefix_length_le hp hv' hge).isInfix.trans
      (List.suffix_append u v).isInfix)

end Separator

end Text

namespace Action

open Character (isBlank)

def number : Action → Nat
  | command _ => 1
  | substitution _ => 2
  | replacement _ _ => 3

def written : Action → Text
  | command c => c.toText
  | substitution t => t.encodeNewlines
  | replacement pattern template => pattern ++ RuleFile.separator ++ template

/-- An action that can be written on a line of a rule file. -/
def Writable : Action → Prop
  | command _ => True
  | substitution t => ¬['\\', 'n'] <:+: t ∧ ∀ c, t.getLast? = some c → isBlank c → c = '\n'
  | replacement pattern template =>
    '\n' ∉ pattern ∧ ¬RuleFile.separator <:+: pattern ∧ pattern.getLast? ≠ some ':' ∧
      '\n' ∉ template ∧ ∀ c, template.getLast? = some c → isBlank c = false

variable {a : Action} {c : Char}

theorem notMem_written (ha : a.Writable) : '\n' ∉ a.written := by
  cases a with
  | command c => cases c <;> decide
  | substitution t => exact Text.notMem_encodeNewlines t
  | replacement pattern template =>
    obtain ⟨hp, -, -, ht, -⟩ := ha
    rw [written, List.mem_append, List.mem_append, not_or, not_or]
    exact ⟨⟨hp, by decide⟩, ht⟩

theorem isBlank_of_getLast?_written (ha : a.Writable) (hc : a.written.getLast? = some c) :
    isBlank c = false := by
  cases a with
  | command command =>
    obtain ⟨d, hd, hblank⟩ : ∃ d, command.toText.getLast? = some d ∧ isBlank d = false := by
      cases command <;> exact ⟨_, rfl, rfl⟩
    exact Option.some.inj (hd.symm.trans hc) ▸ hblank
  | substitution t =>
    rw [← Bool.not_eq_true]
    intro hblank
    obtain ⟨hlast, hne⟩ := Text.getLast?_encodeNewlines hc hblank
    exact hne (ha.2 c hlast hblank)
  | replacement pattern template =>
    obtain ⟨-, -, -, -, hlast⟩ := ha
    rw [written, List.getLast?_append] at hc
    cases h : template.getLast? with
    | some d =>
      rw [h, Option.some_or] at hc
      exact Option.some.inj hc ▸ hlast d h
    | none =>
      rw [h, Option.none_or, RuleFile.separator, List.getLast?_append_cons, List.getLast?_cons_cons,
        List.getLast?_cons_cons, List.getLast?_singleton] at hc
      obtain rfl := Option.some.inj hc
      decide

end Action

namespace RuleFile

open Character (isBlank)

variable {trigger : Text} {a : Action} {e : Text × Action} {es : List (Text × Action)}

structure IsTrigger (t : Text) : Prop where
  ne_nil : t ≠ []
  trimmed : t.trim = t
  no_equals : '=' ∉ t
  no_newline : '\n' ∉ t
  not_comment : t.head? ≠ some '#'
  not_numbered :
    ¬∃ digits rest, t = digits ++ '.' :: rest ∧ digits ≠ [] ∧ ∀ c ∈ digits, c.isDigit = true

def written (e : Text × Action) : Text := e.1 ++ '=' :: e.2.written

/-- An entry whose parts can be told apart again. -/
def Writable (e : Text × Action) : Prop := IsTrigger e.1 ∧ e.2.Writable

theorem trim_written (he : Writable e) : (written e).trim = written e := by
  obtain ⟨d, s, hs⟩ := List.exists_cons_of_ne_nil he.1.ne_nil
  have htrim := (Text.trim_eq_self_iff.1 he.1.trimmed).1
  rw [Text.trim_eq_self_iff, written]
  constructor
  · intro c hc
    apply htrim c
    rwa [hs] at hc ⊢
  · intro c hc
    rw [List.getLast?_append_cons, List.getLast?_cons] at hc
    cases h : e.2.written.getLast? with
    | some d =>
      rw [h] at hc
      exact Option.some.inj hc ▸ Action.isBlank_of_getLast?_written he.2 h
    | none =>
      rw [h] at hc
      obtain rfl := Option.some.inj hc
      decide

theorem isLine_written (he : Writable e) : Text.IsLine (written e) := by
  constructor
  · rw [written, List.mem_append, List.mem_cons, not_or, not_or]
    exact ⟨he.1.no_newline, by decide, Action.notMem_written he.2⟩
  · intro hlast
    rw [← trim_written he] at hlast
    exact absurd (Text.isBlank_of_getLast?_trim hlast) (by decide)

theorem not_opens_written (he : IsTrigger e.1) (number : Nat) : ¬Opens (written e) number := by
  rintro ⟨digits, rest, h, hne, hdigits, -⟩
  rw [written, List.append_eq_append_iff] at h
  rcases h with ⟨v, hv, hrest⟩ | ⟨v, hv, hrest⟩
  · cases v with
    | nil => cases hrest
    | cons d v =>
      obtain rfl := (List.cons.inj hrest).1
      have := hdigits '=' (hv ▸ List.mem_append_right _ List.mem_cons_self)
      revert this
      decide
  · cases v with
    | nil => cases hrest
    | cons d v =>
      obtain rfl := (List.cons.inj hrest).1
      exact he.not_numbered ⟨digits, v, hv, hne, hdigits⟩

theorem candidate_written (he : IsTrigger e.1) : Candidate (written e) where
  not_opens := not_opens_written he
  ne_nil := List.append_ne_nil_of_right_ne_nil _ (List.cons_ne_nil _ _)
  not_comment := by
    obtain ⟨d, s, hs⟩ := List.exists_cons_of_ne_nil he.ne_nil
    have := he.not_comment
    rwa [written, hs] at *
  has_equals := List.mem_append_right _ List.mem_cons_self

theorem action_written (ha : a.Writable) (line trigger : Text) :
    action a.number line trigger a.written = .ok a := by
  cases a with
  | command c =>
    have hname : Command.ofName? c.toText = some c := by cases c <;> decide
    rw [action, Action.number, if_neg (by simp), if_pos rfl, Action.written, hname]
  | substitution t =>
    rw [action, Action.number, if_neg (by simp), if_neg (by simp), Action.written,
      Text.decodeNewlines_encodeNewlines ha.1]
  | replacement pattern template =>
    rw [action, Action.number, if_pos (.inl rfl), Action.written,
      Text.splitOnce_separator ha.2.1 ha.2.2.1]

theorem entry_written (he : Writable e) : entry e.2.number (written e) = .ok e := by
  rw [entry, written, Text.splitOnce_append_cons he.1.no_equals, Option.getD_some]
  dsimp only
  rw [he.1.trimmed, action_written he.2, if_neg]
  · rfl
  · rw [List.isEmpty_iff]
    exact he.1.ne_nil

/-- A set of rules that does what entries say, in their order, and for which no line was passed
over. -/
structure Holds (set : RuleSet) (es : List (Text × Action)) : Prop where
  rules : set.rules.map (fun r => (r.trigger, r.action)) = es
  warnings : ∀ w ∈ set.warnings, ¬w.problem.Skips

theorem holds_empty : Holds .empty [] := ⟨rfl, nofun⟩

theorem Holds.append {a b : RuleSet} {es fs : List (Text × Action)} (ha : Holds a es)
    (hb : Holds b fs) : Holds (a.append b) (es ++ fs) where
  rules := by rw [RuleSet.append, List.map_append, ha.rules, hb.rules]
  warnings w hw := (List.mem_append.1 hw).elim (ha.warnings w) (hb.warnings w)

theorem holds_readLine (he : Writable e) (n : Nat) :
    Holds (readLine e.2.number n (written e).trim) [e] := by
  rw [trim_written he, readLine_of_candidate (candidate_written he.1), readEntry, entry_written he]
  exact ⟨rfl, fun w hw => (RuleSet.eq_of_mem_warnings_ofRule hw).2⟩

theorem openAfter_written (he : Writable e) (number : Nat) :
    openAfter number [written e] = number := by
  rw [openAfter_singleton, trim_written he, section?_eq_none_iff.2 (not_opens_written he.1),
    Option.getD_none]

theorem holds_entries {number : Nat} (hes : ∀ e ∈ es, Writable e)
    (hnumber : ∀ e ∈ es, e.2.number = number) (n : Nat) :
    Holds (readLines number n (es.map written)) es := by
  induction es generalizing n with
  | nil => exact holds_empty
  | cons e es ih =>
    obtain ⟨he, hes⟩ := List.forall_mem_cons.1 hes
    obtain ⟨rfl, hnumber⟩ := List.forall_mem_cons.1 hnumber
    rw [List.map_cons, readLines_cons, openAfter_written he]
    exact (holds_readLine he n).append (ih hes hnumber (n + 1))

/-- A line that opens a section and entries under it hold the entries, whatever section stands open
above. -/
theorem holds_section {number : Nat} {header : Text} (hheader : section? header.trim = some number)
    (hes : ∀ e ∈ es, Writable e) (hnumber : ∀ e ∈ es, e.2.number = number) (m n : Nat) :
    Holds (readLines m n (header :: es.map written)) es := by
  have hnot : ¬Candidate header.trim := fun hc =>
    hc.not_opens number (section?_eq_some_iff.1 hheader)
  rw [readLines_cons, readLine_of_not_candidate hnot, RuleSet.empty_append, openAfter_singleton,
    hheader, Option.getD_some]
  exact holds_entries hes hnumber (n + 1)

structure Source where
  commands : List (Text × Command)
  substitutions : List (Text × Text)
  replacements : List (Text × Text × Text)
  deriving DecidableEq, Repr

namespace Source

def commandEntries (s : Source) : List (Text × Action) :=
  s.commands.map fun (t, c) => (t, .command c)

def substitutionEntries (s : Source) : List (Text × Action) :=
  s.substitutions.map fun (t, u) => (t, .substitution u)

def replacementEntries (s : Source) : List (Text × Action) :=
  s.replacements.map fun (t, p, u) => (t, .replacement p u)

def entries (s : Source) : List (Text × Action) :=
  s.commandEntries ++ (s.substitutionEntries ++ s.replacementEntries)

def lines (s : Source) : List Text :=
  ['1', '.'] :: s.commandEntries.map written ++
    (['2', '.'] :: s.substitutionEntries.map written ++ ['3', '.'] ::
      s.replacementEntries.map written)

def Writable (s : Source) : Prop := ∀ e ∈ s.entries, RuleFile.Writable e

variable {s : Source} {l : Text}

theorem mem_lines_iff :
    l ∈ s.lines ↔ l ∈ [['1', '.'], ['2', '.'], ['3', '.']] ∨ ∃ e ∈ s.entries, written e = l := by
  simp only [lines, entries, List.cons_append, List.mem_cons, List.mem_append, List.mem_map,
    List.not_mem_nil]
  grind

theorem isLine_of_mem_lines (hs : s.Writable) (h : l ∈ s.lines) : Text.IsLine l ∧ l ≠ [] := by
  have hheaders : ∀ l ∈ [['1', '.'], ['2', '.'], ['3', '.']],
      ('\n' ∉ l ∧ l.getLast? ≠ some '\r') ∧ l ≠ [] := by
    decide
  rcases mem_lines_iff.1 h with h | ⟨e, he, rfl⟩
  · exact hheaders l h
  · exact ⟨isLine_written (hs e he), (candidate_written (hs e he).1).ne_nil⟩

theorem lines_of_unlines (hs : s.Writable) {t : Text}
    (ht : t = Text.unlines s.lines ∨ t ++ ['\n'] = Text.unlines s.lines) : t.lines = s.lines :=
  Text.lines_of_unlines (fun _ hl => (isLine_of_mem_lines hs hl).1)
    (fun h => (isLine_of_mem_lines hs h).2 rfl) ht

theorem holds_lines (hs : s.Writable) : Holds (readLines 1 1 s.lines) s.entries := by
  obtain ⟨hcommands, hs⟩ := List.forall_mem_append.1 hs
  obtain ⟨hsubstitutions, hreplacements⟩ := List.forall_mem_append.1 hs
  have hone : ∀ e ∈ s.commandEntries, e.2.number = 1 := List.forall_mem_map.2 fun _ _ => rfl
  have htwo : ∀ e ∈ s.substitutionEntries, e.2.number = 2 := List.forall_mem_map.2 fun _ _ => rfl
  have hthree : ∀ e ∈ s.replacementEntries, e.2.number = 3 := List.forall_mem_map.2 fun _ _ => rfl
  have hheader :
      (section? (Text.trim ['1', '.']) = some 1 ∧ section? (Text.trim ['2', '.']) = some 2) ∧
        (section? (Text.trim ['3', '.']) = some 3) := by decide
  rw [lines, readLines_append, readLines_append]
  exact (holds_section hheader.1.1 hcommands hone _ _).append
    ((holds_section hheader.1.2 hsubstitutions htwo _ _).append
      (holds_section hheader.2 hreplacements hthree _ _))

end Source

/-- What is written in the three sections is read back, with all that looks like a separator and is
none. -/
theorem written_read_back (s : Source) (hs : s.Writable) (t : Text)
    (ht : t = Text.unlines s.lines ∨ t ++ ['\n'] = Text.unlines s.lines) :
    (RuleSet.read t).rules.map (fun r => (r.trigger, r.action)) = s.entries ∧
      ∀ w ∈ (RuleSet.read t).warnings, ¬w.problem.Skips := by
  rw [RuleSet.read, Source.lines_of_unlines hs ht]
  exact ⟨(Source.holds_lines hs).rules, (Source.holds_lines hs).warnings⟩

theorem isTrigger_singleton {c : Char} (hc : c ∉ ['=', '\n', '#', '.'])
    (hblank : isBlank c = false) : IsTrigger [c] where
  ne_nil := List.cons_ne_nil c []
  trimmed := Text.trim_eq_self_iff.2 ⟨fun d hd => Option.some.inj hd ▸ hblank,
    fun d hd => Option.some.inj hd ▸ hblank⟩
  no_equals h := hc (List.mem_singleton.1 h ▸ by simp)
  no_newline h := hc (List.mem_singleton.1 h ▸ by simp)
  not_comment h := hc (Option.some.inj h ▸ by simp)
  not_numbered := by
    rintro ⟨digits, rest, h, -⟩
    have hdot : '.' ∈ [c] := h ▸ List.mem_append_right _ List.mem_cons_self
    exact hc (List.mem_singleton.1 hdot ▸ by simp)

def delimiters : Source where
  commands := [(['u'], .undo)]
  substitutions := [(['1'], ['x', '=', '\n'])]
  replacements := [(['c'], ['p', '='], [':', ':', ':', '='])]

theorem written_read_back_delimiters :
    let t : Text := "1.\nu=#undo\n2.\n1=x=\\n\n3.\nc=p=::::::=".toList
    delimiters.Writable ∧ t ++ ['\n'] = Text.unlines delimiters.lines ∧
      (RuleSet.read t).rules.map (fun r => (r.trigger, r.action)) =
        [(['u'], .command .undo), (['1'], .substitution ['x', '=', '\n']),
          (['c'], .replacement ['p', '='] [':', ':', ':', '='])] ∧
      ∀ w ∈ (RuleSet.read t).warnings, ¬w.problem.Skips := by
  intro t
  have hs : delimiters.Writable := by
    refine List.forall_mem_cons.2 ⟨⟨isTrigger_singleton (by decide) (by decide), trivial⟩, ?_⟩
    refine List.forall_mem_cons.2 ⟨⟨isTrigger_singleton (by decide) (by decide), by decide, ?_⟩, ?_⟩
    · rintro c ⟨⟩ -
      rfl
    · refine List.forall_mem_singleton.2 ⟨isTrigger_singleton (by decide) (by decide), ?_⟩
      refine ⟨by decide, by decide, by decide, by decide, ?_⟩
      rintro c ⟨⟩
      decide
  have ht : t ++ ['\n'] = Text.unlines delimiters.lines := by decide
  exact ⟨hs, ht, written_read_back delimiters hs t (.inr ht)⟩

end RuleFile

end Dictation
