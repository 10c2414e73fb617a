import Dictation.Proofs.Pattern.Prefix.Reader

namespace Dictation.Pattern.Reading

variable {R : Reading → Reading → Prop} {s s' e : Reading} {c : Char} {t u : Text} {k m : Nat}

/-- Whatever a step does to the first of two related readings, but to close a group, it does to the
second, and the two are related again. -/
structure Simulates (R : Reading → Reading → Prop) : Prop where
  flags {s s' : Reading} : R s s' → s'.flags = s.flags
  node {s s' : Reading} {n : Node} : R s s' → n.shift = n → R (s.addNode n) (s'.addNode n)
  switched {s s' : Reading} (f : Flags) : R s s' →
    R { s with flags := f, inside := s.inside.add .flags }
      { s' with flags := f, inside := s'.inside.add .flags }
  opened {s s' : Reading} (f : Flags) : R s s' → R (s.openGroup none f) (s'.openGroup none f)
  captured {s s' : Reading} : R s s' → R s.openCapture s'.openCapture
  named {s s' : Reading} {name : Text} : R s s' → s.names.any (·.1 == name) = false →
    s'.names.any (·.1 == name) = false ∧
      R { s.openCapture with names := (name, s.groups + 1) :: s.names }
      { s'.openCapture with names := (name, s'.groups + 1) :: s'.names }
  alternative {s s' : Reading} : R s s' →
    R { s with inside := s.inside.nextAlternative } { s' with inside := s'.inside.nextAlternative }
  repeated {s s' : Reading} (least : Nat) (most : Option Nat) (lazy : Bool) : R s s' →
    Carries R (s.repeat? least most lazy) (s'.repeat? least most lazy)

def Aside (R : Reading → Reading → Prop) (p q : Reading × Text) : Prop := R p.1 q.1 ∧ q.2 = p.2

namespace Simulates

variable (hR : Simulates R)

include hR

theorem openNamed? (h : R s s') (t : Text) :
    Carries (Aside R) (s.openNamed? t) (s'.openNamed? t) := by
  refine (Carries.refl _).bind ?_
  rintro ⟨name, u⟩ _ rfl
  dsimp only
  split
  · exact .none
  · next hname =>
    obtain ⟨hname', h'⟩ := hR.named h (Bool.eq_false_iff.2 hname)
    rw [hname']
    exact .some ⟨h', rfl⟩

theorem switch? (h : R s s') (t : Text) : Carries (Aside R) (s.switch? t) (s'.switch? t) := by
  rw [switch?_eq, switch?_eq, hR.flags h]
  refine (Carries.refl _).bind ?_
  rintro ⟨⟨isGroup, flags, seen⟩, u⟩ _ rfl
  cases isGroup with
  | true => exact .some ⟨hR.opened flags h, rfl⟩
  | false =>
    cases seen with
    | nil => exact .none
    | cons => exact .some ⟨hR.switched flags h, rfl⟩

theorem group? (h : R s s') (t : Text) : Carries (Aside R) (s.group? t) (s'.group? t) := by
  have hflags := hR.flags h
  by_cases ht : (s.flags.skip t).head? = some '?'
  · obtain ⟨u, hu⟩ := List.head?_eq_some_iff.1 ht
    rw [group?_of_question hu, group?_of_question (s := s') (hflags ▸ hu)]
    unfold special?
    split_ifs
    · exact .none
    · exact hR.openNamed? h _
    · exact .none
    · exact .none
    · exact hR.openNamed? h _
    · exact hR.switch? h _
  · rw [group?_of_ne_question ht, group?_of_ne_question (s := s') (hflags ▸ ht), hflags]
    exact .some ⟨hR.captured h, rfl⟩

theorem uncounted? (h : R s s') (least : Nat) (most : Option Nat) (t : Text) :
    Carries (Aside R) (s.uncounted? least most t) (s'.uncounted? least most t) := by
  have hrepeat (lazy : Bool) (t : Text) : Carries (Aside R) ((s.repeat? least most lazy).map (·, t))
      ((s'.repeat? least most lazy).map (·, t)) := (hR.repeated least most lazy h).map fun _ _ h =>
        ⟨h, rfl⟩
  unfold Reading.uncounted?
  split
  · exact hrepeat true _
  · exact hrepeat false _

theorem counted? (h : R s s') (t : Text) : Carries (Aside R) (s.counted? t) (s'.counted? t) := by
  have hflags := hR.flags h
  have hclose (least : Nat) (most : Option Nat) (t : Text) :
      Carries (Aside R) (counted?.close s least most t) (counted?.close s' least most t) := by
    have hskip : counted?.close s' least most t = s'.uncounted? least most (s.flags.skip t) :=
      hflags ▸ rfl
    exact hskip ▸ hR.uncounted? h least most (s.flags.skip t)
  unfold Reading.counted?
  rw [hflags]
  split
  · split
    · refine (Carries.refl _).bind ?_
      rintro least _ rfl
      exact hclose least none _
    · split
      · refine (Carries.refl _).bind ?_
        rintro least _ rfl
        refine (Carries.refl _).bind ?_
        rintro most _ rfl
        split
        · exact hclose least (some most) _
        · exact .none
      · exact .none
  · refine (Carries.refl _).bind ?_
    rintro n _ rfl
    exact hclose n (some n) _
  · exact .none

theorem step? (h : R s s') (hclose : c = ')' → Carries R s.closeGroup? s'.closeGroup?) (t : Text) :
    Carries (Aside R) (s.step? c t) (s'.step? c t) := by
  have hnode {n : Node} (hn : n.shift = n) (t : Text) :
      Carries (Aside R) (some (s.addNode n, t)) (some (s'.addNode n, t)) :=
        .some ⟨hR.node h hn, rfl⟩
  unfold Reading.step?
  rw [hR.flags h]
  split
  · exact hR.group? h t
  · exact (hclose rfl).map fun _ _ h => ⟨h, rfl⟩
  · have halternative := hR.alternative h
    rw [hR.flags h] at halternative
    exact .some ⟨halternative, rfl⟩
  · exact .same _ fun x => ⟨hR.node h rfl, rfl⟩
  · exact hR.uncounted? h _ _ t
  · exact hR.uncounted? h _ _ t
  · exact hR.uncounted? h _ _ t
  · exact hR.counted? h t
  · refine .same _ fun x => ⟨hR.node h ?_, rfl⟩
    cases x.1 <;> rfl
  · exact .same _ fun x => ⟨hR.node h rfl, rfl⟩
  · exact hnode rfl t
  · exact hnode rfl t
  · exact hnode rfl t

theorem run? (hclose : ∀ s s', R s s' → Carries R s.closeGroup? s'.closeGroup?) (h : R s s') :
    Carries R (run? k s t) (run? k s' t) := by
  induction k generalizing s s' t with
  | zero => exact .none
  | succ k ih =>
    rw [Reading.run?, Reading.run?, hR.flags h]
    split
    · exact .some h
    · refine (hR.step? h (fun _ => hclose s s' h) _).bind ?_
      rintro ⟨e, u⟩ ⟨e', _⟩ ⟨he, rfl⟩
      exact ih he

end Simulates

end Dictation.Pattern.Reading
