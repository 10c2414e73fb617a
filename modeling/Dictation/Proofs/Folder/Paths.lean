import Dictation.Folder
import Dictation.Proofs.Text.Lines

namespace Dictation.Folder

variable {files : List (Text × Text)} {name path t : Text}

section Put

theorem lookup_cons_of_ne {m n : Text} (h : n ≠ m) (v : Text) (files : List (Text × Text)) :
    ((m, v) :: files).lookup n = files.lookup n := by
  rw [List.lookup_cons, beq_false_of_ne h]

theorem lookup_put_self (name t : Text) (files : List (Text × Text)) :
    (put name t files).lookup name = some t := by
  induction files with
  | nil => exact List.lookup_cons_self
  | cons f files ih =>
    obtain ⟨m, v⟩ := f
    rw [put]
    split_ifs with hm
    · rw [hm, List.lookup_cons_self]
    · rw [lookup_cons_of_ne (Ne.symm hm), ih]

theorem lookup_put_of_ne {n : Text} (h : n ≠ name) (t : Text) (files : List (Text × Text)) :
    (put name t files).lookup n = files.lookup n := by
  induction files with
  | nil => exact lookup_cons_of_ne h t []
  | cons f files ih =>
    obtain ⟨m, v⟩ := f
    rw [put]
    split_ifs with hm
    · subst hm
      rw [lookup_cons_of_ne h, lookup_cons_of_ne h]
    · rw [List.lookup_cons, List.lookup_cons, ih]

theorem put_put (name t u : Text) (files : List (Text × Text)) :
    put name u (put name t files) = put name u files := by
  induction files with
  | nil => simp [put]
  | cons f files ih =>
    obtain ⟨m, v⟩ := f
    by_cases hm : m = name <;> simp [put, hm, ih]

end Put

section Resolve

variable {ps qs : List Text} {p : Text} {s target : Target}

def SlashFree (ps : List Text) : Prop := ∀ p ∈ ps, '/' ∉ p

theorem slashFree_parts (path : Text) : SlashFree (parts path) := fun _ => Text.notMem_of_mem_pieces

theorem SlashFree.concat (hps : SlashFree ps) (hp : '/' ∉ p) : SlashFree (ps ++ [p]) := by
  intro q hq
  rcases List.mem_append.1 hq with hq | hq
  · exact hps q hq
  · exact List.mem_singleton.1 hq ▸ hp

theorem parts_join (hps : SlashFree ps) (hne : ps ≠ []) : parts (join ps) = ps := by
  induction ps with
  | nil => exact absurd rfl hne
  | cons p ps ih =>
    have hp := hps p List.mem_cons_self
    cases ps with
    | nil => exact Text.pieces_of_notMem hp
    | cons q ps =>
      have hrest := ih (fun r hr => hps r (List.mem_cons_of_mem p hr)) (List.cons_ne_nil q ps)
      rw [join, parts, Text.pieces_append_cons hp, ← parts, hrest]
      exact List.cons_ne_nil q ps

theorem join_inj (hps : SlashFree ps) (hqs : SlashFree qs) (hp : ps ≠ []) (hq : qs ≠ [])
    (h : join ps = join qs) : ps = qs := by
  rw [← parts_join hps hp, h, parts_join hqs hq]

def IsDirectory (files : List (Text × Text)) (ps : List Text) : Prop :=
  (files.any fun f => ps.isPrefixOf (parts f.1)) = true

theorem IsDirectory.put (h : IsDirectory files ps) (name t : Text) :
    IsDirectory (put name t files) ps := by
  induction files with
  | nil => cases h
  | cons f files ih =>
    obtain ⟨m, v⟩ := f
    rw [IsDirectory, List.any_cons, Bool.or_eq_true] at h
    rw [IsDirectory, Folder.put]
    split_ifs with hm
    · rwa [List.any_cons, Bool.or_eq_true]
    · rw [List.any_cons, Bool.or_eq_true]
      exact h.imp_right ih

namespace Target

def Sound (files : List (Text × Text)) : Target → Prop
  | .file name => (files.lookup name).isSome
  | .free name => ∃ ps, name = join ps ∧ ps ≠ [] ∧ SlashFree ps ∧ ¬IsDirectory files ps
  | .directory ps => SlashFree ps
  | .outside _ | .sink => True

def written : Target → Target
  | .free name => .file name
  | s => s

def name? : Target → Option Text
  | .file name | .free name => some name
  | _ => none

end Target

theorem sound_step (hs : s.Sound files) (hp : '/' ∉ p) (h : step files s p = .ok target) :
    target.Sound files := by
  cases s with
  | file name | sink | free name => cases h
  | outside ps =>
    simp only [step] at h
    split_ifs at h <;> cases h <;> trivial
  | directory ps =>
    simp only [step] at h
    split_ifs at h with h1 h2 h3 h4 h5 h6
    · cases h; exact hs
    · cases h; trivial
    · cases h; exact fun q hq => hs q (List.dropLast_subset ps hq)
    · cases h; exact h5
    · cases h; exact hs.concat hp
    · cases h; exact ⟨ps ++ [p], rfl, by simp, hs.concat hp, h6⟩

/-- A place that holds a file, or where one can be put, is no directory. -/
theorem join_ne_of_isDirectory {start : Target} (hs : start.Sound files)
    (hname : start.name? = some name)
    (hps : SlashFree ps) (hne : ps ≠ []) (hfile : (files.lookup (join ps)).isSome = false)
    (hdir : IsDirectory files ps) : join ps ≠ name := by
  rintro rfl
  cases start with
  | file n =>
    obtain rfl := Option.some_inj.1 hname
    rw [Target.Sound, hfile] at hs
    cases hs
  | free n =>
    obtain rfl := Option.some_inj.1 hname
    obtain ⟨qs, hjoin, hqs, hfree, hnot⟩ := hs
    exact hnot (join_inj hps hfree hne hqs hjoin ▸ hdir)
  | directory _ | outside _ | sink => cases hname

section Written

variable {start : Target} (hstart : start.Sound files) (hname : start.name? = some name)

include hstart hname

theorem step_put (hs : s.Sound files) (hp : '/' ∉ p) (h : step files s p = .ok target)
    (hfree : ∀ n, target = .free n → n = name) (t : Text) :
    step (put name t files) s p = .ok target.written := by
  cases s with
  | file n | sink | free n => cases h
  | outside ps =>
    simp only [step] at h ⊢
    split_ifs at h ⊢ <;> cases h <;> rfl
  | directory ps =>
    simp only [step] at h ⊢
    have hhere := hs.concat hp
    have hne : ps ++ [p] ≠ [] := by simp
    split_ifs at h with h1 h2 h3 h4 h5 h6
    · cases h; rw [if_pos h1]; rfl
    · cases h; rw [if_neg h1, if_pos h2, if_pos h3]; rfl
    · cases h; rw [if_neg h1, if_pos h2, if_neg h3]; rfl
    · cases h
      have hthere : ((put name t files).lookup (join (ps ++ [p]))).isSome = true := by
        by_cases heq : join (ps ++ [p]) = name
        · rw [heq, lookup_put_self]
          rfl
        · rw [lookup_put_of_ne heq, h5]
      rw [if_neg h1, if_neg h2, if_neg h4, if_pos hthere]
      rfl
    · -- A directory stays one, since the file is put where there is none.
      cases h
      have hnot := join_ne_of_isDirectory hstart hname hhere hne (Bool.not_eq_true _ ▸ h5) h6
      rw [if_neg h1, if_neg h2, if_neg h4, lookup_put_of_ne hnot, if_neg h5,
        if_pos (show _ = true from IsDirectory.put h6 name t)]
      rfl
    · -- The one place where nothing is there yet is the one that is written.
      cases h
      obtain rfl := hfree _ rfl
      rw [if_neg h1, if_neg h2, if_neg h4, lookup_put_self, Option.isSome_some, if_pos rfl]
      rfl

theorem foldlM_put (hs : s.Sound files) (hps : SlashFree ps)
    (h : ps.foldlM (step files) s = .ok target)
    (hfree : ∀ n, target = .free n → n = name) (t : Text) :
    ps.foldlM (step (put name t files)) s.written = .ok target.written := by
  induction ps generalizing s with
  | nil =>
    cases h
    rfl
  | cons p ps ih =>
    have hp := hps p List.mem_cons_self
    have hrest : SlashFree ps := fun q hq => hps q (List.mem_cons_of_mem p hq)
    rw [List.foldlM_cons] at h ⊢
    cases hstep : step files s p with
    | error e =>
      rw [hstep] at h
      cases h
    | ok r =>
      rw [hstep] at h
      have hr : ∀ n, r = .free n → n = name := by
        rintro n rfl
        cases ps with
        | nil => exact hfree n (Except.ok.inj h).symm
        | cons q ps => cases h
      have hs' : s.written = s := by
        cases s with
        | free n => cases hstep
        | file _ | directory _ | outside _ | sink => rfl
      rw [hs', step_put hstart hname hs hp hstep hr t]
      exact ih (sound_step hs hp hstep) hrest h

end Written

theorem sound_foldlM (hs : s.Sound files) (hps : SlashFree ps)
    (h : ps.foldlM (step files) s = .ok target) : target.Sound files := by
  induction ps generalizing s with
  | nil =>
    cases h
    exact hs
  | cons p ps ih =>
    rw [List.foldlM_cons] at h
    cases hstep : step files s p with
    | error e =>
      rw [hstep] at h
      cases h
    | ok r =>
      rw [hstep] at h
      have hp := hps p List.mem_cons_self
      exact ih (sound_step hs hp hstep) (fun q hq => hps q (List.mem_cons_of_mem p hq)) h

theorem resolve_cases (path : Text) :
    (∃ e, ∀ files, resolve files path = .error e) ∨
      ∃ s ps, SlashFree ps ∧ (∀ files, Target.Sound files s) ∧ s.written = s ∧
        ∀ files, resolve files path = ps.foldlM (step files) s := by
  by_cases h1 : path.contains '\x00'
  · exact .inl ⟨.nullInName, fun files => by rw [resolve, if_pos h1]⟩
  by_cases h2 : path.isEmpty
  · exact .inl ⟨.missing, fun files => by rw [resolve, if_neg h1, if_pos h2]⟩
  by_cases h3 : pathLimit < path.size
  · exact .inl ⟨.nameTooLong, fun files => by rw [resolve, if_neg h1, if_neg h2, if_pos h3]⟩
  right
  have hfree := slashFree_parts path
  cases hparts : parts path with
  | nil =>
    refine ⟨.directory [], [], fun _ h => absurd h List.not_mem_nil,
      fun _ _ h => absurd h List.not_mem_nil, rfl, ?_⟩
    intro files
    rw [resolve, if_neg h1, if_neg h2, if_neg h3, hparts]
  | cons p rest =>
    rw [hparts] at hfree
    cases p with
    | nil =>
      refine ⟨.outside [], rest, fun p hp => hfree p (List.mem_cons_of_mem _ hp), fun _ => trivial,
        rfl, ?_⟩
      intro files
      rw [resolve, if_neg h1, if_neg h2, if_neg h3, hparts]
    | cons c p =>
      refine ⟨.directory [], (c :: p) :: rest, hfree, fun _ _ h => absurd h List.not_mem_nil, rfl,
        ?_⟩
      intro files
      rw [resolve, if_neg h1, if_neg h2, if_neg h3, hparts]

theorem sound_resolve (h : resolve files path = .ok target) : target.Sound files := by
  obtain ⟨e, he⟩ | ⟨s, ps, hps, hs, -, hresolve⟩ := resolve_cases path
  · rw [he] at h
    cases h
  · rw [hresolve] at h
    exact sound_foldlM (hs files) hps h

/-- Where another path led, it leads after a file is written, too. -/
theorem resolve_put {q : Text} {r : Target} (hpath : resolve files path = .ok target)
    (hname : target.name? = some name) (h : resolve files q = .ok r)
    (hfree : ∀ n, r = .free n → n = name) (t : Text) :
    resolve (put name t files) q = .ok r.written := by
  obtain ⟨e, he⟩ | ⟨s, ps, hps, hs, hwritten, hresolve⟩ := resolve_cases q
  · rw [he] at h
    cases h
  · rw [hresolve] at h ⊢
    have hput := foldlM_put (sound_resolve hpath) hname (hs files) hps h hfree t
    rwa [hwritten] at hput

end Resolve

end Dictation.Folder
