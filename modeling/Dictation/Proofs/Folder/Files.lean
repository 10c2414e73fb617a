import Dictation.Proofs.Folder.Paths

namespace Dictation.Folder

variable {f g : Folder} {name path q t u : Text}

theorem read_of_file (h : resolve f.files path = .ok (.file name)) :
    f.read path = .ok ((f.files.lookup name).getD []) := by
  rw [read, h]

theorem exists_of_read (h : f.read path = .ok t) :
    (∃ name, resolve f.files path = .ok (.file name) ∧ t = (f.files.lookup name).getD []) ∨
      resolve f.files path = .ok .sink ∧ t = [] := by
  rw [read] at h
  cases hs : resolve f.files path with
  | error e =>
    rw [hs] at h
    cases h
  | ok s =>
    rw [hs] at h
    cases s with
    | file name => exact .inl ⟨name, rfl, (Except.ok.inj h).symm⟩
    | sink => exact .inr ⟨rfl, (Except.ok.inj h).symm⟩
    | directory _ | outside _ | free _ => cases h

theorem isPresent_of_read (h : f.read path = .ok t) : f.isPresent path = true := by
  rw [isPresent]
  obtain ⟨name, hs, -⟩ | ⟨hs, -⟩ := exists_of_read h <;> rw [hs]

/-- The name of the file that a path leads to, or would once it is written. -/
def fileAt? (f : Folder) (path : Text) : Option Text :=
  (resolve f.files path).toOption.bind Target.name?

theorem exists_of_fileAt? (h : f.fileAt? path = some name) :
    ∃ s, resolve f.files path = .ok s ∧ s.name? = some name := by
  rw [fileAt?] at h
  cases hs : resolve f.files path with
  | error e =>
    rw [hs] at h
    cases h
  | ok s =>
    rw [hs] at h
    exact ⟨s, rfl, h⟩

theorem write_of_fileAt? (h : f.fileAt? path = some name) (t : Text) :
    f.write path t = .ok { f with files := put name t f.files } := by
  obtain ⟨s, hs, hname⟩ := exists_of_fileAt? h
  rw [write, hs]
  cases s with
  | file n | free n =>
    obtain rfl := Option.some_inj.1 hname
    rfl
  | directory _ | outside _ | sink => cases hname

theorem eq_of_write (h : f.fileAt? path = none) (hw : f.write path t = .ok g) : g = f := by
  rw [fileAt?] at h
  rw [write] at hw
  cases hs : resolve f.files path with
  | error e =>
    rw [hs] at hw
    cases e with
    | missing =>
      dsimp only at hw
      split at hw <;> cases hw
    | _ => cases hw
  | ok s =>
    rw [hs] at h hw
    cases s with
    | file n | free n => cases h
    | directory _ | outside _ => cases hw
    | sink => exact (Except.ok.inj hw).symm

section Congr

variable (h : g.files = f.files)

include h

theorem read_congr (path : Text) : g.read path = f.read path := by
  rw [read, read, h]

theorem isPresent_congr (path : Text) : g.isPresent path = f.isPresent path := by
  rw [isPresent, isPresent, h]

theorem fileAt?_congr (path : Text) : g.fileAt? path = f.fileAt? path := by
  rw [fileAt?, fileAt?, h]

end Congr

section Written

variable (hfile : f.fileAt? path = some name) (hg : g.files = put name t f.files)

include hfile hg

theorem resolve_of_written : resolve g.files path = .ok (.file name) := by
  obtain ⟨s, hs, hname⟩ := exists_of_fileAt? hfile
  have hput : resolve (put name t f.files) path = .ok s.written := by
    apply resolve_put hs hname hs
    rintro n rfl
    exact Option.some_inj.1 hname
  rw [hg, hput]
  cases s with
  | file n | free n =>
    obtain rfl := Option.some_inj.1 hname
    rfl
  | directory _ | outside _ | sink => cases hname

theorem read_of_written : g.read path = .ok t := by
  rw [read_of_file (resolve_of_written hfile hg), hg, lookup_put_self, Option.getD_some]

theorem fileAt?_of_written : g.fileAt? path = some name := by
  rw [fileAt?, resolve_of_written hfile hg]
  rfl

/-- What could be read can still be read, and is the same unless it is what was written. -/
theorem read_of_written_of_read (hq : f.read q = .ok u) :
    (∃ v, g.read q = .ok v) ∧ (f.fileAt? q ≠ some name → g.read q = .ok u) := by
  obtain ⟨s, hs, hname⟩ := exists_of_fileAt? hfile
  obtain ⟨n, hr, rfl⟩ | ⟨hr, rfl⟩ := exists_of_read hq
  · have hput : resolve g.files q = .ok (.file n) := hg ▸ resolve_put hs hname hr (by rintro _ ⟨⟩) t
    refine ⟨⟨_, read_of_file hput⟩, fun hne => ?_⟩
    have hn : n ≠ name := by
      rintro rfl
      exact hne (by rw [fileAt?, hr]; rfl)
    rw [read_of_file hput, hg, lookup_put_of_ne hn]
  · have hput : resolve g.files q = .ok .sink := hg ▸ resolve_put hs hname hr (by rintro _ ⟨⟩) t
    have hread : g.read q = .ok [] := by rw [read, hput]
    exact ⟨⟨_, hread⟩, fun _ => hread⟩

end Written

end Dictation.Folder
