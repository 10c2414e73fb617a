import Dictation.Proofs.Change
import Dictation.Proofs.Session.Clamping
import Dictation.Screen.Basic
import Mathlib.Data.List.Nodup

namespace Dictation

/-- A span of a text that begins and ends between characters. -/
def Span.OnBoundaries (span : Span) (t : Text) : Prop :=
  t.IsBoundary span.start ∧ t.IsBoundary span.stop

theorem onBoundaries_of_mem_changes {old new : Text} {span : Span} (h : span ∈ changes old new) :
    span.OnBoundaries new := by
  by_cases hne : old = new
  · rw [changes, if_pos hne] at h
    exact absurd h List.not_mem_nil
  · obtain ⟨a, s, t, b, -, rfl, hspan⟩ := exists_changes_eq hne
    rw [hspan, List.mem_singleton] at h
    rw [h]
    exact ⟨.append a (t ++ b), List.append_assoc a t b ▸ .append (a ++ t) b⟩

/-- What an outcome calls changed lies between characters of the document that the session is left
with. -/
theorem Session.onBoundaries_of_operate {s : Session} {o : Operation} {x : Outcome}
    (h : (s.operate o).2 = some (.ok x)) {span : Span} (hspan : span ∈ x.spans) :
    span.OnBoundaries (s.operate o).1.document.buffer := by
  have ho (d : Document) : o ≠ .replaceDocument d false := by
    rintro rfl
    cases h
  have hshift : Shift s.document s.history (some (.ok x))
      (s.operate o).1.document (s.operate o).1.history :=
    h ▸ s.shifts_operate o ho
  have hstays (hx : x.leavesDocument = true) : x.spans = [] := by
    cases x with
    | edited | undone | redone => cases hx
    | _ => rfl
  generalize (s.operate o).1.document = e, (s.operate o).1.history = k at hshift ⊢
  cases hshift with
  | stay hx => exact absurd (hstays (hx x rfl) ▸ hspan) List.not_mem_nil
  | snapshot hx => exact absurd (hstays hx ▸ hspan) List.not_mem_nil
  | commit | undo | redo => exact onBoundaries_of_mem_changes hspan

namespace Screen

def Part.text : Part → Text
  | .caret => []
  | .run r => r.text

def shown (ps : List Part) : Text := ps.flatMap Part.text

theorem shown_cons (p : Part) (ps : List Part) : shown (p :: ps) = p.text ++ shown ps := rfl

theorem shown_append (ps qs : List Part) : shown (ps ++ qs) = shown ps ++ shown qs :=
  List.flatMap_append

section Cuts

variable {i j k : Nat} {js : List Nat} {d : Document} {span : Option Span}

theorem mem_insertCut : k ∈ insertCut i js ↔ k = i ∨ k ∈ js := by
  induction js with
  | nil => rw [insertCut, List.mem_singleton, List.mem_nil_iff, or_false]
  | cons j js ih =>
    rw [insertCut]
    split_ifs with hlt heq
    · exact List.mem_cons
    · rw [heq, List.mem_cons, or_self_left]
    · rw [List.mem_cons, ih, List.mem_cons, or_left_comm]

theorem pairwise_insertCut (h : js.Pairwise (· < ·)) : (insertCut i js).Pairwise (· < ·) := by
  induction js with
  | nil => exact List.pairwise_singleton _ _
  | cons j js ih =>
    obtain ⟨hj, hjs⟩ := List.pairwise_cons.1 h
    rw [insertCut]
    split_ifs with hlt heq
    · exact List.pairwise_cons.2
        ⟨List.forall_mem_cons.2 ⟨hlt, fun k hk => Nat.lt_trans hlt (hj k hk)⟩, h⟩
    · exact h
    · refine List.pairwise_cons.2 ⟨fun k hk => ?_, ih hjs⟩
      obtain rfl | hk := mem_insertCut.1 hk
      · omega
      · exact hj k hk

theorem mem_foldr_insertCut (is : List Nat) : k ∈ is.foldr insertCut [] ↔ k ∈ is := by
  induction is with
  | nil => rfl
  | cons i is ih => rw [List.foldr_cons, mem_insertCut, ih, List.mem_cons]

theorem pairwise_cuts (d : Document) (span : Option Span) : (cuts d span).Pairwise (· < ·) := by
  have hfold (is : List Nat) : (is.foldr insertCut []).Pairwise (· < ·) := by
    induction is with
    | nil => exact .nil
    | cons i is ih => exact pairwise_insertCut ih
  exact hfold _

theorem mem_cuts_iff : k ∈ cuts d span ↔
    k = 0 ∨ k = d.buffer.size ∨ k = d.clamped.start ∨ k = d.clamped.stop ∨
      ∃ s ∈ span, k = min s.start d.buffer.size ∨ k = min s.stop d.buffer.size := by
  unfold cuts
  rw [mem_foldr_insertCut]
  cases span <;> simp

theorem exists_eq_zero_cons (h : js.Pairwise (· < ·)) (hzero : 0 ∈ js) :
    ∃ rest, js = 0 :: rest := by
  obtain ⟨before, after, rfl⟩ := List.append_of_mem hzero
  cases before with
  | nil => exact ⟨after, rfl⟩
  | cons i before =>
    have hlt : i < 0 := (List.pairwise_append.1 h).2.2 i List.mem_cons_self 0 List.mem_cons_self
    exact absurd hlt (Nat.not_lt_zero i)

theorem getLast?_eq_of_forall_le (h : js.Pairwise (· < ·)) (hk : k ∈ js) (hle : ∀ j ∈ js, j ≤ k) :
    js.getLast? = some k := by
  obtain ⟨before, after, rfl⟩ := List.append_of_mem hk
  cases after with
  | nil => exact List.getLast?_concat
  | cons j after =>
    have hlt : k < j := (List.pairwise_cons.1 (List.pairwise_append.1 h).2.1).1 j List.mem_cons_self
    have hle : j ≤ k := hle j (List.mem_append_right _ (List.mem_cons_of_mem k List.mem_cons_self))
    omega

theorem le_or_le_of_infix (h : js.Pairwise (· < ·)) (hij : [i, j] <:+: js) (hk : k ∈ js) :
    k ≤ i ∨ j ≤ k := by
  obtain ⟨before, after, rfl⟩ := hij
  simp only [List.append_assoc, List.cons_append, List.nil_append, List.pairwise_append,
    List.pairwise_cons, List.forall_mem_cons] at h
  simp only [List.append_assoc, List.cons_append, List.nil_append, List.mem_append,
    List.mem_cons] at hk
  obtain ⟨-, ⟨-, hafter, -⟩, hbefore⟩ := h
  obtain hk | rfl | rfl | hk := hk
  · exact .inl (Nat.le_of_lt (hbefore k hk).1)
  · exact .inl (Nat.le_refl k)
  · exact .inr (Nat.le_refl k)
  · exact .inr (Nat.le_of_lt (hafter k hk))

end Cuts

section Between

variable {i : Nat} {js : List Nat} {d : Document} {span : Option Span} {caret : Option Nat}

theorem part?_shown_partsBetween {n : Nat} (h : (i :: js).Pairwise (· < ·))
    (hb : ∀ k ∈ i :: js, d.buffer.IsBoundary k) (hn : (i :: js).getLast? = some n) :
    d.buffer.part? i n = some (shown (partsBetween d span caret (i :: js))) := by
  induction js generalizing i with
  | nil =>
    obtain rfl := Option.some.inj hn
    exact Text.part?_self (hb i List.mem_cons_self)
  | cons j js ih =>
    have hij : i < j := (List.forall_mem_cons.1 (List.pairwise_cons.1 h).1).1
    obtain ⟨hi, hbs⟩ := List.forall_mem_cons.1 hb
    have hrun := Text.part?_of_isBoundary (Nat.le_of_lt hij) hi (hbs j List.mem_cons_self)
    have hrest := ih (List.pairwise_cons.1 h).2 hbs (by rwa [List.getLast?_cons_cons] at hn)
    have hcaret : shown (if caret = some i then [.caret] else []) = [] := by
      split_ifs <;> rfl
    rw [partsBetween, shown_append, hcaret, List.nil_append, shown_cons]
    exact Text.part?_append hrun hrest

/-- A part between cuts is the caret, or lies between two neighbouring cuts; what comes before it
shows the buffer up to where it begins. -/
theorem partsBetween_eq_append_cons {before after : List Part} {p : Part}
    (h : (i :: js).Pairwise (· < ·))
    (hb : ∀ k ∈ i :: js, d.buffer.IsBoundary k)
    (hp : partsBetween d span caret (i :: js) = before ++ p :: after) :
    ∃ j, d.buffer.part? i j = some (shown before) ∧
      (p = .caret ∧ caret = some j ∨ ∃ k, [j, k] <:+: i :: js ∧ p = .run (run d span j k)) := by
  induction js generalizing i before with
  | nil =>
    exact absurd hp.symm (List.append_ne_nil_of_right_ne_nil before (List.cons_ne_nil p after))
  | cons j js ih =>
    have hij : i < j := (List.forall_mem_cons.1 (List.pairwise_cons.1 h).1).1
    obtain ⟨hi, hbs⟩ := List.forall_mem_cons.1 hb
    have hrun := Text.part?_of_isBoundary (Nat.le_of_lt hij) hi (hbs j List.mem_cons_self)
    have hempty := Text.part?_self hi
    have hpast {before : List Part}
        (hp : .run (run d span i j) :: partsBetween d span caret (j :: js) = before ++ p :: after) :
        ∃ k, d.buffer.part? i k = some (shown before) ∧
          (p = .caret ∧ caret = some k ∨ ∃ l, [k, l] <:+: i :: j :: js ∧
            p = .run (run d span k l)) := by
      cases before with
      | nil =>
        obtain ⟨rfl, -⟩ := List.cons.inj hp
        exact ⟨i, hempty, .inr ⟨j, ⟨[], js, rfl⟩, rfl⟩⟩
      | cons q before =>
        obtain ⟨rfl, hrest⟩ := List.cons.inj hp
        obtain ⟨k, hbefore, hk⟩ := ih (List.pairwise_cons.1 h).2 hbs hrest
        refine ⟨k, Text.part?_append hrun hbefore, hk.imp_right ?_⟩
        rintro ⟨l, hinfix, hp⟩
        exact ⟨l, hinfix.trans (List.suffix_cons i _).isInfix, hp⟩
    rw [partsBetween] at hp
    split_ifs at hp with hcaret
    · cases before with
      | nil =>
        obtain ⟨rfl, -⟩ := List.cons.inj hp
        exact ⟨i, hempty, .inl ⟨rfl, hcaret⟩⟩
      | cons q before =>
        obtain ⟨rfl, hrest⟩ := List.cons.inj hp
        obtain ⟨k, hbefore, hk⟩ := hpast hrest
        exact ⟨k, hbefore, hk⟩
    · exact hpast hp

theorem count_caret_partsBetween (i : Nat) (js : List Nat) :
    (partsBetween d span (some i) js).count .caret = js.dropLast.count i := by
  induction js with
  | nil => rfl
  | cons j js ih =>
    cases js with
    | nil => rfl
    | cons k js =>
      rw [partsBetween, List.count_append,
        List.count_cons_of_ne (by nofun), ih, List.dropLast_cons_cons,
        List.count_cons, Nat.add_comm]
      congr 1
      by_cases hij : i = j
      · simp [hij]
      · simp [hij, Ne.symm hij]

end Between

section Parts

variable {screen : Screen} {d : Document} {spans : List Span}

theorem mem_span?_iff {span : Span} : span ∈ screen.span? spans ↔
    span ∈ spans.head? ∧ span.isEmpty = false ∧ screen.highlight.code?.isSome = true := by
  rw [span?, Option.mem_filter_iff, Bool.and_eq_true, Bool.not_eq_true']

theorem coloured_run_iff {span : Option Span} {i j : Nat} :
    (run d span i j).coloured = true ↔ ∃ s ∈ span, s.start ≤ i ∧ j ≤ s.stop := by
  cases span with
  | none => simp [run]
  | some s => simp [run]

theorem caret?_eq_some_iff {i : Nat} :
    screen.caret? d = some i ↔ screen.showCaret = true ∧ d.clamped.isCaret = true ∧
      d.clamped.start = i := by
  rw [caret?, Option.ite_none_right_eq_some, Bool.and_eq_true, Option.some.injEq, and_assoc]

section Spans

variable (h : ∀ span ∈ spans.head?, span.OnBoundaries d.buffer)

include h

theorem mem_cuts_of_mem_span? {span : Span} (hspan : span ∈ screen.span? spans) :
    span.start ∈ cuts d (screen.span? spans) ∧ span.stop ∈ cuts d (screen.span? spans) := by
  obtain ⟨hstart, hstop⟩ := h span (mem_span?_iff.1 hspan).1
  have hmin := Nat.min_eq_left hstart.le_size
  have hmin' := Nat.min_eq_left hstop.le_size
  exact ⟨mem_cuts_iff.2 (.inr (.inr (.inr (.inr ⟨span, hspan, .inl hmin.symm⟩)))),
    mem_cuts_iff.2 (.inr (.inr (.inr (.inr ⟨span, hspan, .inr hmin'.symm⟩))))⟩

theorem isBoundary_of_mem_cuts {k : Nat} (hk : k ∈ cuts d (screen.span? spans)) :
    d.buffer.IsBoundary k := by
  obtain ⟨-, hstart, hstop⟩ := d.selection.valid_clampTo d.buffer
  obtain rfl | rfl | rfl | rfl | ⟨span, hspan, hk⟩ := mem_cuts_iff.1 hk
  · exact ⟨[], d.buffer, rfl, rfl⟩
  · exact ⟨d.buffer, [], (List.append_nil _).symm, rfl⟩
  · exact hstart
  · exact hstop
  · obtain ⟨hspanStart, hspanStop⟩ := h span (mem_span?_iff.1 hspan).1
    rw [Nat.min_eq_left hspanStart.le_size, Nat.min_eq_left hspanStop.le_size] at hk
    obtain rfl | rfl := hk
    · exact hspanStart
    · exact hspanStop

/-- A run between neighbouring cuts lies in the selection, or in the span, with all of its bytes or
with none. -/
theorem run_between {i j k : Nat} (hij : [i, j] <:+: cuts d (screen.span? spans)) (hi : i ≤ k)
    (hj : k < j) :
    ((run d (screen.span? spans) i j).reversed = true ↔ d.clamped.start ≤ k ∧ k < d.clamped.stop) ∧
    ((run d (screen.span? spans) i j).coloured = true ↔
      screen.highlight.code?.isSome = true ∧ ∃ span ∈ spans.head?, span.start ≤ k ∧
        k < span.stop) := by
  have hapart {c : Nat} (hc : c ∈ cuts d (screen.span? spans)) : c ≤ i ∨ j ≤ c :=
    le_or_le_of_infix (pairwise_cuts d _) hij hc
  constructor
  · have hstart := hapart (mem_cuts_iff.2 (.inr (.inr (.inl rfl))))
    have hstop := hapart (mem_cuts_iff.2 (.inr (.inr (.inr (.inl rfl)))))
    simp only [run, Selection.isCaret, Bool.and_eq_true, Bool.not_eq_true', beq_eq_false_iff_ne,
      decide_eq_true_eq]
    omega
  · rw [coloured_run_iff]
    constructor
    · rintro ⟨span, hspan, hstart, hstop⟩
      obtain ⟨hfirst, -, hcolour⟩ := mem_span?_iff.1 hspan
      exact ⟨hcolour, span, hfirst, Nat.le_trans hstart hi, Nat.lt_of_lt_of_le hj hstop⟩
    · rintro ⟨hcolour, span, hfirst, hstart, hstop⟩
      have hempty : span.isEmpty = false := beq_eq_false_iff_ne.2 (by omega)
      have hspan : span ∈ screen.span? spans := mem_span?_iff.2 ⟨hfirst, hempty, hcolour⟩
      obtain ⟨hcut, hcut'⟩ := mem_cuts_of_mem_span? h hspan
      have hbefore := hapart hcut
      have hbehind := hapart hcut'
      exact ⟨span, hspan, by omega, by omega⟩

theorem exists_cuts (screen : Screen) :
    ∃ js, cuts d (screen.span? spans) = 0 :: js ∧ (0 :: js).Pairwise (· < ·) ∧
    (∀ k ∈ 0 :: js, d.buffer.IsBoundary k) ∧ (0 :: js).getLast? = some d.buffer.size := by
  have hsorted := pairwise_cuts d (screen.span? spans)
  have hb (k : Nat) (hk : k ∈ cuts d (screen.span? spans)) : d.buffer.IsBoundary k :=
    isBoundary_of_mem_cuts h hk
  have hlast := getLast?_eq_of_forall_le hsorted (mem_cuts_iff.2 (.inr (.inl rfl))) fun k hk =>
    (hb k hk).le_size
  obtain ⟨js, hjs⟩ := exists_eq_zero_cons hsorted (mem_cuts_iff.2 (.inl rfl))
  rw [hjs] at hsorted hb hlast
  exact ⟨js, hjs, hsorted, hb, hlast⟩

theorem shown_parts (screen : Screen) : shown (screen.parts d spans) = d.buffer := by
  obtain ⟨js, hjs, hsorted, hb, hlast⟩ := exists_cuts h screen
  have hruns : d.buffer.part? 0 d.buffer.size =
      some (shown (partsBetween d (screen.span? spans) (screen.caret? d) (0 :: js))) :=
    part?_shown_partsBetween hsorted hb hlast
  have hwhole : d.buffer.part? 0 d.buffer.size = some d.buffer :=
    Text.part?_eq_some_iff.2 ⟨[], [], (List.append_nil _).symm, rfl, rfl⟩
  have hcaret : shown (if screen.caret? d = some d.buffer.size then [.caret] else []) = [] := by
    split_ifs <;> rfl
  rw [parts, hjs, shown_append, hcaret, List.append_nil]
  exact Option.some.inj (hruns.symm.trans hwhole)

/-- What a part of a document is, and where it stands. -/
theorem parts_eq_append_cons {before after : List Part} {p : Part}
    (hp : screen.parts d spans = before ++ p :: after) :
    ∃ i, d.buffer.part? 0 i = some (shown before) ∧
      (p = .caret ∧ screen.caret? d = some i ∨
        ∃ j, [i, j] <:+: cuts d (screen.span? spans) ∧
          p = .run (run d (screen.span? spans) i j)) := by
  obtain ⟨js, hjs, hsorted, hb, hlast⟩ := exists_cuts h screen
  rw [parts, hjs] at hp
  rw [hjs]
  split_ifs at hp with hcaret
  · obtain rfl | ⟨middle, q, rfl⟩ := List.eq_nil_or_concat after
    · obtain ⟨rfl, hq⟩ := List.append_inj' hp rfl
      obtain rfl := List.singleton_inj.1 hq
      exact ⟨d.buffer.size, part?_shown_partsBetween hsorted hb hlast, .inl ⟨rfl, hcaret⟩⟩
    · rw [List.concat_eq_append, ← List.cons_append, ← List.append_assoc] at hp
      exact partsBetween_eq_append_cons hsorted hb (List.append_inj_left' hp rfl)
  · rw [List.append_nil] at hp
    exact partsBetween_eq_append_cons hsorted hb hp

theorem count_caret_parts {i : Nat} (hcaret : screen.caret? d = some i)
    (hi : i ∈ cuts d (screen.span? spans)) : (screen.parts d spans).count .caret = 1 := by
  obtain ⟨js, hjs, hsorted, -, hlast⟩ := exists_cuts h screen
  obtain ⟨is, his⟩ := List.getLast?_eq_some_iff.1 hlast
  have hends : (if some i = some d.buffer.size then [Part.caret] else []).count .caret =
      [d.buffer.size].count i := by
    by_cases heq : i = d.buffer.size
    · simp [heq]
    · simp [heq, Ne.symm heq]
  rw [parts, hcaret, List.count_append, count_caret_partsBetween, hends, hjs, his,
    List.dropLast_concat, ← List.count_append, ← his]
  rw [hjs] at hi
  exact List.nodup_iff_count_eq_one.1 (hsorted.imp Nat.ne_of_lt) i hi

end Spans

/-- The buffer is shown as it is: the runs are its parts, one after the other, each cut between two
characters; bytes are reversed as they are selected and coloured as the span and the colour have it;
the caret stands in its place. -/
structure Shows (screen : Screen) (d : Document) (spans : List Span) : Prop where
  document : screen.document d spans = (screen.parts d spans).flatMap fun
    | .caret => [Marker.caretSymbol]
    | .run r => screen.showRun r
  shown : shown (screen.parts d spans) = d.buffer
  run : ∀ before r after, screen.parts d spans = before ++ .run r :: after → ∃ i j, i < j ∧
    d.buffer.part? 0 i = some (Screen.shown before) ∧ d.buffer.part? i j = some r.text ∧
      ∀ k, i ≤ k → k < j → (r.reversed = true ↔ d.clamped.start ≤ k ∧ k < d.clamped.stop) ∧
      (r.coloured = true ↔
        screen.highlight.code?.isSome = true ∧ ∃ span ∈ spans.head?, span.start ≤ k ∧ k < span.stop)
  styled : ∀ r, .run r ∈ screen.parts d spans → (screen.colours r = [] ↔ r.coloured = false) ∧
    ∃ normal,
    screen.showRun r = screen.colours r ++ (if r.reversed then control ['7'] else []) ++ r.text ++
      normal ∧
    (r.reversed = false → screen.colours r = [] → normal = [])
  caret : ∀ before after, screen.parts d spans = before ++ .caret :: after →
    screen.showCaret = true ∧ d.clamped.isCaret = true ∧
      d.buffer.part? 0 d.clamped.start = some (Screen.shown before)
  caret_once : screen.showCaret = true → d.clamped.isCaret = true →
    (screen.parts d spans).count .caret = 1

theorem colours_eq_nil_iff {r : Run}
    (hr : r.coloured = true → screen.highlight.code?.isSome = true) :
    screen.colours r = [] ↔ r.coloured = false := by
  unfold colours
  cases hcoloured : r.coloured with
  | false => split <;> simp
  | true =>
    obtain ⟨n, hn⟩ := Option.isSome_iff_exists.1 (hr hcoloured)
    simp [hn, colour, control]

theorem exists_showRun_eq (screen : Screen) (r : Run) : ∃ normal,
    screen.showRun r = screen.colours r ++ (if r.reversed then control ['7'] else []) ++ r.text ++
      normal ∧
    (r.reversed = false → screen.colours r = [] → normal = []) := by
  rw [showRun]
  cases r.reversed with
  | true => exact ⟨control ['0'], by simp, nofun⟩
  | false =>
    refine ⟨if (screen.colours r).isEmpty then [] else screen.colour "49" ++
      screen.colour "39", by simp, ?_⟩
    intro _ hempty
    rw [hempty]
    rfl

theorem shows (h : ∀ span ∈ spans.head?, span.OnBoundaries d.buffer) : screen.Shows d spans where
  document := rfl
  shown := shown_parts h screen
  run before r after hr := by
    obtain ⟨i, hi, ⟨⟨⟩, -⟩ | ⟨j, hij, hrun⟩⟩ := parts_eq_append_cons h hr
    obtain rfl := Part.run.inj hrun
    have hlt : i < j := by
      have hpair := (pairwise_cuts d (screen.span? spans)).sublist hij.sublist
      exact List.rel_of_pairwise_cons hpair List.mem_cons_self
    have hb {k : Nat} (hk : k ∈ [i, j]) : d.buffer.IsBoundary k :=
      isBoundary_of_mem_cuts h (hij.subset hk)
    exact ⟨i, j, hlt, hi, Text.part?_of_isBoundary (Nat.le_of_lt hlt) (hb (by simp)) (hb (by simp)),
      fun k hik hkj => run_between h hij hik hkj⟩
  styled r hr := by
    obtain ⟨before, after, hr⟩ := List.append_of_mem hr
    obtain ⟨i, -, ⟨⟨⟩, -⟩ | ⟨j, -, hrun⟩⟩ := parts_eq_append_cons h hr
    obtain rfl := Part.run.inj hrun
    refine ⟨colours_eq_nil_iff fun hcoloured => ?_, exists_showRun_eq screen _⟩
    obtain ⟨span, hspan, -⟩ := coloured_run_iff.1 hcoloured
    exact (mem_span?_iff.1 hspan).2.2
  caret before after hcaret := by
    obtain ⟨i, hi, ⟨-, hat⟩ | ⟨j, -, ⟨⟩⟩⟩ := parts_eq_append_cons h hcaret
    obtain ⟨hshow, hcaret, rfl⟩ := caret?_eq_some_iff.1 hat
    exact ⟨hshow, hcaret, hi⟩
  caret_once hshow hcaret :=
    count_caret_parts h (caret?_eq_some_iff.2 ⟨hshow, hcaret, rfl⟩)
      (mem_cuts_iff.2 (.inr (.inr (.inl rfl))))

end Parts

end Screen

end Dictation
