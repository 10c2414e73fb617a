import Dictation.Proofs.Pattern.Suffix.Bracket

namespace Dictation.Pattern

namespace Shape

variable {σ π : Type}

/-- The same shape with every group numbered one higher. -/
def shift : Shape σ π → Shape σ π
  | empty => empty
  | one s => one s
  | place l => place l
  | seq p q => seq p.shift q.shift
  | alt p q => alt p.shift q.shift
  | opt greedy p => opt greedy p.shift
  | star greedy p => star greedy p.shift
  | plus greedy p => plus greedy p.shift
  | group i p => group (i + 1) p.shift

theorem shift_sequence (ps : List (Shape σ π)) : (sequence ps).shift = sequence (ps.map shift) := by
  induction ps with
  | nil => rfl
  | cons p ps ih =>
    cases ps with
    | nil => rfl
    | cons q ps => exact congrArg (seq p.shift) ih

theorem shift_choice (ps : List (Shape σ π)) : (choice ps).shift = choice (ps.map shift) := by
  induction ps with
  | nil => rfl
  | cons p ps ih =>
    cases ps with
    | nil => rfl
    | cons q ps => exact congrArg (alt p.shift) ih

theorem shift_times (p : Shape σ π) (n : Nat) : (times p n).shift = times p.shift n := by
  rw [times, shift_sequence, List.map_replicate, times]

theorem shift_upTo (greedy : Bool) (p : Shape σ π) (n : Nat) :
    (upTo greedy p n).shift = upTo greedy p.shift n := by
  induction n with
  | zero => rfl
  | succ n ih =>
    cases n with
    | zero => rfl
    | succ n => exact congrArg (fun q => opt greedy (seq p.shift q)) ih

theorem shift_repeated (greedy : Bool) (p : Shape σ π) (least : Nat) (most : Option Nat) :
    (repeated greedy p least most).shift = repeated greedy p.shift least most := by
  cases most with
  | none =>
    cases least with
    | zero => rfl
    | succ least =>
      simp only [repeated]
      split
      · rfl
      · rw [shift, shift_times, shift]
  | some most =>
    simp only [repeated]
    split
    · rw [shift_times]
    · split
      · rw [shift_upTo]
      · rw [shift, shift_times, shift_upTo]

end Shape

def Node.shift (n : Node) : Node := { n with pattern := n.pattern.shift }

def Part.shift : Part → Part
  | node n => node n.shift
  | flags => flags

theorem totalWeight_shift (ns : List Node) : totalWeight (ns.map Node.shift) = totalWeight ns := by
  rw [totalWeight, List.foldl_map]
  rfl

namespace Inside

def shift (g : Inside) : Inside := ⟨g.alternatives.map Node.shift, g.parts.map Part.shift⟩

theorem shift_sequence (g : Inside) : g.shift.sequence = g.sequence.shift := by
  have hnodes : (g.parts.map Part.shift).filterMap Part.node? =
      (g.parts.filterMap Part.node?).map Node.shift := by
    rw [List.filterMap_map, List.map_filterMap]
    congr 1
    funext part
    cases part <;> rfl
  simp only [sequence, shift, Node.shift, hnodes, ← List.map_reverse, totalWeight_shift,
    List.length_map, List.map_map, Shape.shift_sequence]
  rfl

theorem shift_nextAlternative (g : Inside) : g.shift.nextAlternative = g.nextAlternative.shift := by
  rw [nextAlternative, shift_sequence]
  rfl

theorem shift_toNode (g : Inside) : g.shift.toNode = g.toNode.shift := by
  have hempty : g.shift.alternatives.isEmpty = g.alternatives.isEmpty := List.isEmpty_map
  rw [toNode, toNode, hempty, shift_sequence]
  split
  · rfl
  · have hnodes : (g.sequence.shift :: g.shift.alternatives).reverse =
        (g.sequence :: g.alternatives).reverse.map Node.shift := by
      rw [List.map_reverse]
      rfl
    dsimp only
    rw [hnodes]
    simp only [totalWeight_shift, List.length_map, List.map_map, Node.shift, Shape.shift_choice]
    rfl

end Inside

def Opened.shift (o : Opened) : Opened := ⟨o.before.shift, o.index.map (· + 1), o.flags⟩

namespace Reading

variable {g : Opened} {s s' : Reading}

/-- The reading inside one more group, the outermost and the first. -/
def nest (g : Opened) (s : Reading) : Reading where
  flags := s.flags
  groups := s.groups + 1
  names := s.names.map (Prod.map id (· + 1))
  inside := s.inside.shift
  stack := s.stack.map Opened.shift ++ [g]

theorem nest_addNode (s : Reading) {n : Node} (hn : n.shift = n) :
    (s.addNode n).nest g = (s.nest g).addNode n := by
  have hinside : (s.inside.add (.node n)).shift = s.inside.shift.add (.node n) := by
    rw [Inside.shift, Inside.add, List.map_cons, Part.shift, hn]
    rfl
  simp only [addNode, nest, hinside]

theorem nest_closeGroup? (h : s.closeGroup? = some s') :
    (s.nest g).closeGroup? = some (s'.nest g) := by
  rw [closeGroup?] at h
  cases hs : s.stack with
  | nil =>
    rw [hs] at h
    cases h
  | cons o stack =>
    rw [hs] at h
    obtain rfl := Option.some.inj h
    simp only [closeGroup?, nest, hs, List.map_cons, List.cons_append, Inside.shift_toNode]
    obtain ⟨before, _ | i, flags⟩ := o <;> rfl

theorem nest_repeat? (s : Reading) (least : Nat) (most : Option Nat) (lazy : Bool) :
    (s.nest g).repeat? least most lazy = (s.repeat? least most lazy).map (nest g) := by
  obtain ⟨flags, groups, names, ⟨alternatives, _ | ⟨n | _, parts⟩⟩, stack⟩ := s
  · rfl
  · simp only [repeat?, nest, Inside.shift, List.map_cons, Part.shift]
    rw [show n.shift.weight = n.weight from rfl]
    split
    · rfl
    · simp only [Option.map_some, nest, Inside.shift, List.map_cons, Part.shift, Node.shift,
        Shape.shift_repeated]
  · rfl

section Steps

variable {w t u : Text} {f : Flags}

/-- A reading and what is left, and the same inside a group with `w` behind. -/
def Within (w : Text) (g : Opened) (p q : Reading × Text) : Prop :=
  q.1 = p.1.nest g ∧ Extends w p.2 q.2

theorem drop_of_groupName? {name : Text} (h : groupName? t = some (name, u)) :
    ∃ d, t.drop (t.takeWhile (· != '>')).length = d :: u := by
  unfold groupName? at h
  dsimp only at h
  split at h
  · next c cs d rest hname hdrop =>
    split at h
    · cases h
      exact ⟨d, hdrop⟩
    · cases h
  · cases h

theorem groupName?_cases (w t : Text) :
    (groupName? (t ++ w) = (groupName? t).map fun x => (x.1, x.2 ++ w)) ∨
    groupName? t = none ∧ ∀ name u, groupName? (t ++ w) = some (name, u) → u.length < w.length := by
  obtain ⟨htake, hne, hdrop⟩ | ⟨hnil, hsuffix⟩ := takeWhile_append_cases (· != '>') t w
  · left
    obtain ⟨d, rest, hrest⟩ := List.exists_cons_of_ne_nil hne
    unfold groupName?
    dsimp only
    rw [htake, hdrop, hrest]
    cases t.takeWhile (· != '>') with
    | nil => rfl
    | cons c cs =>
      simp only [List.cons_append, apply_ite (Option.map _)]
      rfl
  · right
    refine ⟨?_, fun name u h => ?_⟩
    · unfold groupName?
      dsimp only
      rw [hnil]
      cases t.takeWhile (· != '>') <;> rfl
    · obtain ⟨d, hdrop⟩ := drop_of_groupName? h
      rw [hdrop] at hsuffix
      exact hsuffix.length_le

theorem carries_groupName? (h : Extends w t u) :
    Carries (Beside (Extends w)) (groupName? t) (groupName? u) := by
  cases h with
  | swallowed => exact .none
  | behind =>
    obtain heq | ⟨hnone, -⟩ := groupName?_cases w t
    · rw [heq]
      intro x hx
      rw [hx]
      exact ⟨_, rfl, rfl, .behind x.2⟩
    · rw [hnone]
      exact .none

theorem carries_openNamed? (h : Extends w t u) (s : Reading) :
    Carries (Within w g) (s.openNamed? t) ((s.nest g).openNamed? u) := by
  refine (carries_groupName? h).bind ?_
  rintro ⟨_, t⟩ ⟨name, u⟩ ⟨rfl, h⟩
  have hnames : (s.nest g).names.any (·.1 == name) = s.names.any (·.1 == name) := by
    rw [nest, List.any_map]
    rfl
  dsimp only
  rw [hnames]
  split
  · exact .none
  · exact .some ⟨rfl, h⟩

theorem carries_readFlags (h : Extends w t u) (seen : List Char) (lastMinus : Option Bool)
    (f : Flags) : Carries (Beside (Beside (Beside (Extends w)))) (readFlags t seen lastMinus f)
      (readFlags u seen lastMinus f) := by
  induction t generalizing u seen lastMinus f with
  | nil => exact .none
  | cons c t ih =>
    obtain rfl := h.eq_cons
    rw [readFlags, readFlags]
    split
    · split
      · exact .none
      · exact .some ⟨rfl, rfl, rfl, .behind t⟩
    · split
      · exact .none
      · split
        · exact ih (.behind t) _ _ _
        · exact (Carries.refl _).bind fun x _ hxy => hxy ▸ ih (.behind t) _ _ _

def switch? (s : Reading) (t : Text) : Option (Reading × Text) :=
  (readFlags t [] none s.flags).bind fun (isGroup, flags, seen, t) =>
    if isGroup then some (s.openGroup none flags, t)
    else if seen.isEmpty then none
    else some ({ s with flags, inside := s.inside.add .flags }, t)

theorem carries_switch? (h : Extends w t u) (s : Reading) :
    Carries (Within w g) (s.switch? t) ((s.nest g).switch? u) := by
  refine (carries_readFlags h [] none s.flags).bind ?_
  rintro ⟨isGroup, flags, seen, t⟩ ⟨_, _, _, u⟩ ⟨rfl, rfl, rfl, h⟩
  dsimp only
  split
  · exact .some ⟨rfl, h⟩
  · split
    · exact .none
    · exact .some ⟨rfl, h⟩

theorem carries_group? (hw : Closing w) (h : Extends w t u) (s : Reading) :
    Carries (Within w g) (s.group? t) ((s.nest g).group? u) := by
  unfold group?
  rw [show (s.nest g).flags = s.flags from rfl]
  cases ht : s.flags.skip t with
  | nil =>
    have hskip := h.skip hw s.flags
    rw [ht] at hskip
    generalize s.flags.skip u = r at hskip
    obtain ⟨v, rfl⟩ := hw.head
    cases hskip with
    | behind => exact .some ⟨rfl, .behind []⟩
    | swallowed => exact .some ⟨rfl, .swallowed⟩
  | cons c r =>
    rw [h.skip_eq_cons hw ht]
    by_cases hc : c = '?'
    · subst hc
      obtain _ | ⟨d, r⟩ := r
      · exact .none
      by_cases hlook : d = '=' ∨ d = '!'
      · obtain rfl | rfl := hlook <;> exact .none
      rw [not_or] at hlook
      by_cases hangle : d = '<'
      · subst hangle
        obtain _ | ⟨e, r⟩ := r
        · exact .none
        by_cases hbehind : e = '=' ∨ e = '!'
        · obtain rfl | rfl := hbehind <;> exact .none
        rw [not_or] at hbehind
        simp only [List.cons_append, List.cons.injEq, hbehind, false_and, imp_self, implies_true]
        exact carries_openNamed? (.behind (e :: r)) s
      by_cases hname : d = 'P'
      · subst hname
        obtain _ | ⟨e, r⟩ := r
        · exact .none
        by_cases he : e = '<'
        · subst he
          exact carries_openNamed? (.behind r) s
        · simp only [List.cons_append, List.cons.injEq, Char.reduceEq, he, and_false, false_and,
            imp_self, implies_true]
          exact .none
      simp only [List.cons_append, List.cons.injEq, hlook, hangle, hname, false_and, imp_self,
        implies_true]
      exact carries_switch? (.behind (d :: r)) s
    · simp only [List.cons.injEq, hc, false_and, imp_self, implies_true]
      exact .some ⟨rfl, .behind (c :: r)⟩

theorem extends_dropWhile_isBlank (hw : Closing w) (h : Extends w t u) :
    Extends w (t.dropWhile Character.isBlank) (u.dropWhile Character.isBlank) := by
  cases h with
  | swallowed => exact .swallowed
  | behind =>
    rw [List.dropWhile_append]
    split
    · next hempty =>
      rw [List.isEmpty_iff.1 hempty]
      obtain ⟨v, rfl⟩ := hw.head
      exact .behind []
    · exact .behind _

theorem beside_count? (hw : Closing w) (h : Extends w t u) (f : Flags) :
    Beside (Extends w) (count? f t) (count? f u) := by
  have hlen : (t.dropWhile Character.isBlank).length ≤ t.length := List.length_dropWhile_le _ _
  have hdigits := beside_spell (f := f) (p := Char.isDigit) hw rfl (extends_dropWhile_isBlank hw h)
    (k := t.length + 1) (m := u.length + 1) (by omega) (by have := h.length_le; omega)
  rw [← digits_eq_spell, ← digits_eq_spell] at hdigits
  simp only [count?]
  generalize digits f (t.length + 1) (t.dropWhile Character.isBlank) = p at hdigits
  generalize digits f (u.length + 1) (u.dropWhile Character.isBlank) = q at hdigits
  obtain ⟨hds, hrest⟩ := hdigits
  rw [hds]
  refine ⟨rfl, ?_⟩
  apply extends_dropWhile_isBlank hw
  apply Extends.skip hw
  exact extends_dropWhile_isBlank hw hrest

theorem count?_nil (f : Flags) : count? f [] = (none, []) := by
  simp [count?, digits, skip_nil]

theorem carries_repeat? (h : Extends w t u) (s : Reading) (least : Nat) (most : Option Nat)
    (lazy : Bool) : Carries (Within w g) ((s.repeat? least most lazy).map (·, t))
      (((s.nest g).repeat? least most lazy).map (·, u)) := by
  rw [nest_repeat?, Option.map_map]
  exact .same _ fun x => ⟨rfl, h⟩

theorem carries_uncounted? (hw : Closing w) (h : Extends w t u) (s : Reading) (least : Nat)
    (most : Option Nat) :
    Carries (Within w g) (s.uncounted? least most t) ((s.nest g).uncounted? least most u) := by
  cases t with
  | nil =>
    obtain ⟨v, rfl⟩ := hw.head
    cases h with
    | behind => exact carries_repeat? (.behind []) s least most false
    | swallowed => exact carries_repeat? .swallowed s least most false
  | cons c t =>
    obtain rfl := h.eq_cons
    unfold uncounted?
    by_cases hc : c = '?'
    · subst hc
      exact carries_repeat? (.behind t) s least most true
    · simp only [List.cons.injEq, hc, false_and, imp_self, implies_true]
      exact carries_repeat? (.behind (c :: t)) s least most false

theorem carries_close (hw : Closing w) (h : Extends w t u) (s : Reading) (least : Nat)
    (most : Option Nat) :
    Carries (Within w g) (counted?.close s least most t) (counted?.close (s.nest g) least most u) :=
  carries_uncounted? hw (h.skip hw s.flags) s least most

def counts? (s : Reading) (least : Option Nat) (t : Text) : Option (Reading × Text) :=
  match s.flags.skip t with
  | '\x7d' :: t => least.bind fun least => counted?.close s least none t
  | t => match count? s.flags t with
    | (most, '\x7d' :: t) => least.bind fun least => most.bind fun most =>
        if least ≤ most then counted?.close s least (some most) t else none
    | _ => none

theorem carries_counts? (hw : Closing w) (t : Text) (s : Reading) (least : Option Nat) :
    Carries (Within w g) (s.counts? least t) ((s.nest g).counts? least (t ++ w)) := by
  unfold counts?
  rw [show (s.nest g).flags = s.flags from rfl]
  cases hr : s.flags.skip t with
  | nil =>
    simp only [count?_nil]
    exact .none
  | cons c r =>
    rw [(Extends.behind t).skip_eq_cons hw hr]
    by_cases hbrace : c = '\x7d'
    · subst hbrace
      refine (Carries.refl least).bind ?_
      rintro n _ rfl
      exact carries_close hw (.behind r) s _ _
    · simp only [List.cons.injEq, hbrace, false_and, imp_self, implies_true]
      have hmost := beside_count? hw (.behind (c :: r)) s.flags
      rw [List.cons_append] at hmost
      generalize count? s.flags (c :: r) = p at hmost ⊢
      generalize count? s.flags (c :: (r ++ w)) = q at hmost ⊢
      obtain ⟨_, t⟩ := p
      obtain ⟨most, u⟩ := q
      obtain ⟨rfl, h⟩ := hmost
      dsimp only at h
      obtain _ | ⟨d, t⟩ := t
      · exact .none
      obtain rfl := h.eq_cons
      by_cases hbrace : d = '\x7d'
      · subst hbrace
        refine (Carries.refl least).bind ?_
        rintro m _ rfl
        refine (Carries.refl most).bind ?_
        rintro n _ rfl
        split
        · exact carries_close hw (.behind t) s _ _
        · exact .none
      · simp only [Prod.mk.injEq, List.cons.injEq, hbrace, false_and, and_false, imp_self,
          implies_true]
        exact .none

theorem carries_counted? (hw : Closing w) (h : Extends w t u) (s : Reading) :
    Carries (Within w g) (s.counted? t) ((s.nest g).counted? u) := by
  unfold counted?
  rw [show (s.nest g).flags = s.flags from rfl]
  have hleast := beside_count? hw (h.skip hw s.flags) s.flags
  generalize count? s.flags (s.flags.skip t) = p at hleast ⊢
  generalize count? s.flags (s.flags.skip u) = q at hleast ⊢
  obtain ⟨_, t⟩ := p
  obtain ⟨least, u⟩ := q
  obtain ⟨rfl, h⟩ := hleast
  dsimp only at h
  obtain _ | ⟨c, t⟩ := t
  · exact .none
  obtain rfl := h.eq_cons
  by_cases hcomma : c = ','
  · subst hcomma
    exact carries_counts? hw t s least
  · by_cases hbrace : c = '\x7d'
    · subst hbrace
      refine (Carries.refl least).bind ?_
      rintro n _ rfl
      exact carries_close hw (.behind t) s _ _
    · simp only [Prod.mk.injEq, List.cons.injEq, hcomma, hbrace, false_and, and_false, imp_self,
        implies_true]
      exact .none

theorem carries_step? (hw : Closing w) (h : Extends w t u) (s : Reading) (c : Char) :
    Carries (Within w g) (s.step? c t) ((s.nest g).step? c u) := by
  unfold step?
  split
  · exact carries_group? hw h s
  · have hclose : Carries (fun x y => y = x.nest g) s.closeGroup? (s.nest g).closeGroup? :=
      fun x hx => ⟨x.nest g, nest_closeGroup? hx, rfl⟩
    exact hclose.map fun x y hxy => ⟨hxy, h⟩
  · refine .some ⟨?_, h⟩
    simp only [nest, Inside.shift_nextAlternative]
  · refine (Bracket.carries_read? hw h).map ?_
    rintro ⟨r, t⟩ ⟨_, u⟩ ⟨rfl, h⟩
    exact ⟨(nest_addNode s rfl).symm, h⟩
  · exact carries_uncounted? hw h s _ _
  · exact carries_uncounted? hw h s _ _
  · exact carries_uncounted? hw h s _ _
  · exact carries_counted? hw h s
  · refine (Escape.carries_read? hw h).map ?_
    rintro ⟨_, t⟩ ⟨p, u⟩ ⟨rfl, h⟩
    have hp : (primitive s.flags p).shift = primitive s.flags p := by cases p <;> rfl
    exact ⟨(nest_addNode s hp).symm, h⟩
  · exact .same _ fun d => ⟨(nest_addNode s rfl).symm, h⟩
  · exact .some ⟨(nest_addNode s rfl).symm, h⟩
  · exact .some ⟨(nest_addNode s rfl).symm, h⟩
  · exact .some ⟨(nest_addNode s rfl).symm, h⟩

/-- A reading that comes to the end of its text comes to the text behind, inside a group; a text
behind that is swallowed by a comment would leave the group open. -/
theorem run?_nest (hw : Closing w) (h : Extends w t u) {n m : Nat} {e r : Reading}
    (he : run? n s t = some e) (hr : run? m (s.nest g) u = some r) (hstack : r.stack = []) :
    ∃ k, run? k (e.nest g) w = some r := by
  induction n generalizing s t u m with
  | zero => cases he
  | succ n ih =>
    obtain _ | m := m
    · cases hr
    rw [run?] at he hr
    rw [show (s.nest g).flags = s.flags from rfl] at hr
    cases ht : s.flags.skip t with
    | nil =>
      rw [ht] at he
      obtain rfl := Option.some.inj he
      have hskip := h.skip hw s.flags
      rw [ht] at hskip
      generalize s.flags.skip u = v at hskip hr
      -- The text behind is left to read, unless it was swallowed; then nothing can close the group.
      cases hskip with
      | behind => exact ⟨m + 1, by rwa [run?, show (s.nest g).flags = s.flags from rfl, hw.skip]⟩
      | swallowed =>
        obtain rfl := Option.some.inj hr
        simp [nest] at hstack
    | cons c t' =>
      rw [ht] at he
      rw [h.skip_eq_cons hw ht] at hr
      dsimp only at he hr
      obtain ⟨⟨s', rest⟩, hstep, he⟩ := Option.bind_eq_some_iff.1 he
      obtain ⟨⟨_, rest'⟩, hstep', rfl, hrest⟩ := carries_step? (g := g) hw (.behind t') s c _ hstep
      rw [hstep', Option.bind_some] at hr
      exact ih hrest he hr

end Steps

end Reading

end Dictation.Pattern
