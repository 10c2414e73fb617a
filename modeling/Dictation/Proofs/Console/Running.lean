import Dictation.Console.Run
import Dictation.Proofs.Folder.Files
import Dictation.Proofs.Marker.Parking
import Dictation.Proofs.Session.Run

namespace Dictation.Console

open Folder (put)

def storedIn (f : Folder) : Option Text → Except Failure (Option Text)
  | none => .ok none
  | some path =>
    if f.isPresent path then
      match f.read path with
      | .ok t => .ok (some t)
      | .error e => .error (.reading path e)
    else .ok none

def rulesIn (f : Folder) (settings : Settings) : Except Fault Text :=
  match settings.rulesPath with
  | none => .ok BuiltIn.rules
  | some path =>
    match f.read path with
    | .ok t => .ok t
    | .error e => .error (.settings path (.file e))

/-- The session that a console starts with in a folder. -/
def opened (f : Folder) (settings : Settings) : Except Failure Session :=
  match storedIn f settings.documentPath with
  | .error e => .error e
  | .ok text =>
    match rulesIn f settings with
    | .error e => .error (.fault e)
    | .ok rules =>
      match settings.start? rules text with
      | none => .error .overflow
      | some s => .ok s

def savedIn (f : Folder) (path : Option Text) (d : Document) : List (Text × Text) :=
  match path.bind f.fileAt? with
  | some name => put name (Marker.park d) f.files
  | none => f.files

section Congr

variable {f g : Folder} (h : g.files = f.files)

include h

theorem storedIn_congr (path : Option Text) : storedIn g path = storedIn f path := by
  cases path with
  | none => rfl
  | some path => rw [storedIn, storedIn, Folder.isPresent_congr h, Folder.read_congr h]

theorem rulesIn_congr (settings : Settings) : rulesIn g settings = rulesIn f settings := by
  rw [rulesIn, rulesIn]
  cases settings.rulesPath with
  | none => rfl
  | some path => dsimp only; rw [Folder.read_congr h]

theorem opened_congr (settings : Settings) : opened g settings = opened f settings := by
  rw [opened, opened, storedIn_congr h, rulesIn_congr h]

theorem savedIn_congr (path : Option Text) (d : Document) :
    savedIn g path d = savedIn f path d := by
  rw [savedIn, savedIn, funext (Folder.fileAt?_congr h), h]

end Congr

section Stored

variable {f g : Folder} {settings : Settings} {path name t rules : Text}

theorem savedIn_of_none (hfile : settings.documentPath.bind f.fileAt? = none) (d : Document) :
    savedIn f settings.documentPath d = f.files := by
  rw [savedIn, hfile]

theorem savedIn_of_fileAt? (hfile : f.fileAt? path = some name) (d : Document) :
    savedIn f (some path) d = put name (Marker.park d) f.files := by
  rw [savedIn, Option.bind_some, hfile]

theorem opened_of_rulesIn {text : Option Text}
    (hs : storedIn f settings.documentPath = .ok text) (hr : rulesIn f settings = .ok rules) :
    opened f settings = match settings.start? rules text with
      | none => .error .overflow
      | some s => .ok s := by
  rw [opened, hs]
  dsimp only
  rw [hr]

theorem storedIn_of_read (hread : f.read path = .ok t) : storedIn f (some path) = .ok (some t) := by
  rw [storedIn, Folder.isPresent_of_read hread, if_pos rfl, hread]

theorem opened_of_read (hpath : settings.documentPath = some path) (hread : f.read path = .ok t)
    (hr : rulesIn f settings = .ok rules) (hcapacity : settings.capacity ≤ History.maxCapacity) :
    opened f settings = .ok (settings.started rules (some t)) := by
  rw [opened_of_rulesIn (hpath ▸ storedIn_of_read hread) hr, Settings.start?_of_le hcapacity]

variable (hfile : f.fileAt? path = some name) (hg : g.files = put name t f.files)

include hfile hg

/-- Rules that could be read can still be read once the document is stored, and are the same if they
are kept in another file. -/
theorem rulesIn_of_written (hr : rulesIn f settings = .ok rules) :
    (∃ rules', rulesIn g settings = .ok rules') ∧
      ((∀ q, settings.rulesPath = some q → f.fileAt? q ≠ some name) →
        rulesIn g settings = .ok rules) := by
  rw [rulesIn] at hr ⊢
  cases hq : settings.rulesPath with
  | none =>
    rw [hq] at hr
    exact ⟨⟨_, rfl⟩, fun _ => hr⟩
  | some q =>
    rw [hq] at hr
    dsimp only at hr ⊢
    cases hread : f.read q with
    | error e =>
      rw [hread] at hr
      cases hr
    | ok u =>
      rw [hread] at hr
      obtain ⟨⟨v, hv⟩, hsame⟩ := Folder.read_of_written_of_read hfile hg hread
      rw [hv]
      refine ⟨⟨v, rfl⟩, fun helse => ?_⟩
      obtain rfl : v = u := Except.ok.inj (hv.symm.trans (hsame (helse q rfl)))
      exact hr

end Stored

variable (bindings : List (Text × Text)) (input : List Text) (settings : Settings)

def console (f : Folder) : Nat × Folder := (repl (Folder.host bindings input) settings).run f

section Host

variable {bindings input settings} {α : Type} (f : Folder)

theorem run_bind_of {β : Type} {f g : Folder} {x : StateM Folder α} {a : α} (h : x.run f = (a, g))
    (next : α → StateM Folder β) : (x >>= next).run f = (next a).run g := by
  rw [StateT.run_bind, h]
  rfl

theorem run_isPresent (path : Text) (next : Bool → StateM Folder α) :
    ((Folder.host bindings input).isPresent path >>= next).run f =
      (next (f.isPresent path)).run f := rfl

theorem run_read (path : Text) (next : Except FileFault Text → StateM Folder α) :
    ((Folder.host bindings input).read path >>= next).run f = (next (f.read path)).run f := rfl

theorem run_valueOf (name : Text) (next : Option Text → StateM Folder α) :
    ((Folder.host bindings input).valueOf? name >>= next).run f =
      (next (Folder.valueOf? bindings name)).run f := rfl

theorem run_out (t : Text) (next : Unit → StateM Folder α) :
    ((Folder.host bindings input).out t >>= next).run f =
      (next ()).run { f with out := f.out ++ t } := rfl

theorem stored_run (path : Option Text) :
    (stored (Folder.host bindings input) path).run f = (storedIn f path, f) := by
  cases path with
  | none => rfl
  | some path =>
    rw [stored, run_isPresent, storedIn]
    cases f.isPresent path with
    | false => rfl
    | true =>
      rw [if_pos rfl, if_pos rfl, run_read]
      cases f.read path <;> rfl

theorem rulesText_run : (rulesText (Folder.host bindings input) settings).run f =
    (rulesIn f settings, f) := by
  rw [rulesText, rulesIn]
  cases settings.rulesPath with
  | none => rfl
  | some path =>
    dsimp only
    rw [run_read]
    cases f.read path <;> rfl

theorem run_write (path t : Text) (next : Except FileFault Unit → StateM Folder α) :
    ((Folder.host bindings input).write path t >>= next).run f =
      match f.write path t with
      | .ok g => (next (.ok ())).run g
      | .error e => (next (.error e)).run f := by
  have hwrite : ((Folder.host bindings input).write path t).run f =
      StateT.run (m := Id) (match f.write path t with
        | .ok g => do set g; return .ok ()
        | .error e => return .error e) f := rfl
  rw [StateT.run_bind, hwrite]
  cases f.write path t <;> rfl

variable (bindings input)

theorem fail_run (e : Failure) :
    (fail (Folder.host bindings input) e).run f =
      (e.code, { f with err := f.err ++ (e.report ++ ['\n']) }) := rfl

theorem save_run (path : Option Text) (d : Document) :
    ∃ c g, (save (Folder.host bindings input) path d).run f = (c, g) ∧ g.files = savedIn f path d ∧
      ((path.bind f.fileAt?).isSome → c = 0) := by
  cases path with
  | none => exact ⟨0, f, rfl, rfl, fun _ => rfl⟩
  | some path =>
    rw [save, run_write, savedIn, Option.bind_some]
    cases hfile : f.fileAt? path with
    | some name =>
      rw [Folder.write_of_fileAt? hfile]
      exact ⟨0, _, rfl, rfl, fun _ => rfl⟩
    | none =>
      cases hw : f.write path (Marker.park d) with
      | ok g =>
        obtain rfl := Folder.eq_of_write hfile hw
        exact ⟨0, g, rfl, rfl, fun _ => rfl⟩
      | error e => exact ⟨1, _, fail_run bindings input f (.saving path e), rfl, nofun⟩

end Host

section Lines

variable {bindings input settings} {lines : List Text}

def Line.Plain (line : Text) : Prop := Line.read line = .utterance line.trim

theorem Line.plain_of_head? {line : Text} (h : line.trim.head? ≠ some ':') : Line.Plain line := by
  have hne {command : Text} (hcommand : command.head? = some ':') : line.trim ≠ command := by
    rintro rfl
    exact h hcommand
  have hinterim : ":interim ".toList.isPrefixOf line.trim = false := by
    rw [← Bool.not_eq_true, List.isPrefixOf_iff_prefix]
    rintro ⟨rest, hrest⟩
    exact hne rfl hrest.symm
  rw [Plain, read, hinterim, if_neg (not_or_intro (hne rfl) (hne rfl)), if_neg (hne rfl),
    if_neg (hne rfl), if_neg (hne rfl), if_neg (hne rfl), if_neg Bool.false_ne_true]

def hearLines (s : Session) (lines : List Text) : Session :=
  lines.foldl (fun s line => (hearSegment s line.trim).1) s

variable (bindings input settings)

theorem answer_run_of_plain {line : Text} (h : Line.Plain line) (screen : Screen) (s : Session)
    (f : Folder) : ∃ g, (answer (Folder.host bindings input) settings screen s line).run f =
        (.yield (hearSegment s line.trim).1, g) ∧ g.files = f.files := by
  rw [answer, h]
  dsimp only
  obtain ⟨t, o | e⟩ := hearSegment s line.trim
  · exact ⟨_, rfl, rfl⟩
  · exact ⟨_, rfl, rfl⟩

theorem overLines_run_of_plain (h : ∀ line ∈ lines, Line.Plain line) (screen : Screen) (s : Session)
    (f : Folder) :
    ∃ g, (Folder.overLines (answer (Folder.host bindings input) settings screen) lines s).run f =
        (hearLines s lines, g) ∧ g.files = f.files := by
  induction lines generalizing s f with
  | nil => exact ⟨f, rfl, rfl⟩
  | cons line lines ih =>
    obtain ⟨g, hg, hfiles⟩ :=
      answer_run_of_plain bindings input settings (h line List.mem_cons_self) screen s f
    obtain ⟨k, hk, hfiles'⟩ := ih (fun l hl => h l (List.mem_cons_of_mem line hl))
      (hearSegment s line.trim).1 g
    refine ⟨k, ?_, hfiles'.trans hfiles⟩
    rw [Folder.overLines, StateT.run_bind, hg]
    exact hk

variable {bindings input settings}

theorem overLines_run_of_quit (h : ∀ line ∈ lines.head?, Line.read line = .quit) (screen : Screen)
    (s : Session) (f : Folder) :
    (Folder.overLines (answer (Folder.host bindings input) settings screen) lines s).run f =
      (s, f) := by
  cases lines with
  | nil => rfl
  | cons line lines =>
    rw [Folder.overLines, answer, h line rfl]
    rfl

theorem console_of_error (bindings : List (Text × Text)) (input : List Text) {f : Folder}
    {e : Failure} (h : opened f settings = .error e) :
    console bindings input settings f =
      (e.code, { f with err := f.err ++ (e.report ++ ['\n']) }) := by
  rw [opened] at h
  rw [console, repl, run_bind_of (stored_run f _)]
  cases hs : storedIn f settings.documentPath with
  | error e' =>
    rw [hs] at h
    obtain rfl := Except.error.inj h
    rfl
  | ok text =>
    rw [hs] at h
    dsimp only
    rw [run_bind_of (rulesText_run f)]
    cases hr : rulesIn f settings with
    | error e' =>
      rw [hr] at h
      obtain rfl := Except.error.inj h
      rfl
    | ok rules =>
      rw [hr] at h
      dsimp only at h ⊢
      cases hstart : settings.start? rules text with
      | none =>
        rw [hstart] at h
        obtain rfl := Except.error.inj h
        rfl
      | some s =>
        rw [hstart] at h
        cases h

theorem files_console_of_error (bindings : List (Text × Text)) (input : List Text) {f : Folder}
    {e : Failure} (h : opened f settings = .error e) :
    (console bindings input settings f).2.files = f.files := by
  rw [console_of_error bindings input h]

theorem exists_of_opened {f : Folder} {s : Session} (h : opened f settings = .ok s) :
    ∃ text rules, storedIn f settings.documentPath = .ok text ∧ rulesIn f settings = .ok rules ∧
      settings.capacity ≤ History.maxCapacity ∧ s = settings.started rules text := by
  rw [opened] at h
  cases hs : storedIn f settings.documentPath with
  | error e =>
    rw [hs] at h
    cases h
  | ok text =>
    cases hr : rulesIn f settings with
    | error e =>
      rw [hs, hr] at h
      cases h
    | ok rules =>
      rw [hs, hr] at h
      dsimp only at h
      cases hstart : settings.start? rules text with
      | none =>
        rw [hstart] at h
        cases h
      | some s' =>
        rw [hstart] at h
        obtain rfl := Except.ok.inj h
        exact ⟨text, rules, rfl, rfl, Settings.start?_eq_some_iff.1 hstart⟩

/-- A console that starts leaves behind the document that its lines lead to. -/
theorem console_of_ok {f : Folder} {s t : Session} (h : opened f settings = .ok s)
    (hlines : ∀ screen g, ∃ k,
      (Folder.overLines (answer (Folder.host bindings input) settings screen) input s).run g =
        (t, k) ∧ k.files = g.files) :
    (console bindings input settings f).2.files = savedIn f settings.documentPath t.document ∧
      ((settings.documentPath.bind f.fileAt?).isSome →
        (console bindings input settings f).1 = 0) := by
  obtain ⟨text, rules, hs, hr, hcapacity, rfl⟩ := exists_of_opened h
  let screen := settings.screen ((Folder.valueOf? bindings "NO_COLOR".toList).any fun v =>
    !v.isEmpty)
  let shown : Text := greeting ++ screen.draw (settings.started rules text) .unchanged
  let g : Folder := { f with out := f.out ++ shown }
  obtain ⟨k, hk, hfiles⟩ := hlines screen g
  have hrun : console bindings input settings f =
      (save (Folder.host bindings input) settings.documentPath t.document).run k := by
    rw [console, repl, run_bind_of (stored_run f _), hs]
    dsimp only
    rw [run_bind_of (rulesText_run f), hr]
    dsimp only
    rw [Settings.start?_of_le hcapacity]
    dsimp only
    rw [run_valueOf, run_out]
    exact run_bind_of hk _
  obtain ⟨c, k', hsave, hsaved, hcode⟩ := save_run bindings input k settings.documentPath t.document
  -- Showing the session changes no file, so the document goes where it would have
  -- gone at the start.
  have hsame : k.files = f.files := hfiles
  rw [savedIn_congr hsame] at hsaved
  rw [funext (Folder.fileAt?_congr hsame)] at hcode
  rw [hrun, hsave]
  exact ⟨hsaved, hcode⟩

end Lines

end Dictation.Console
