import Dictation.Proofs.Console.Storage
import Dictation.Proofs.Session.Alike
import Dictation.Proofs.Session.Invariant
import Dictation.Proofs.Session.Setup

namespace Dictation.Console

open Folder (put)
open Marker (Unmarked park unpark)
open Session (AlikeSteps isReversal)

variable {s t : Session} {text u : Text} {lines : List Text}

section Segment

theorem hearSegment_of_process (h : (s.hear text true).2 = .ok (.process u)) :
    hearSegment s text =
      (((s.hear text true).1.process u).1.beginSegment, ((s.hear text true).1.process u).2) := by
  have hpair : s.hear text true = ((s.hear text true).1, .ok (.process u)) := Prod.ext rfl h
  rw [hearSegment, hpair]
  rfl

theorem hearSegment_of_ne (h : ∀ u, (s.hear text true).2 ≠ .ok (.process u)) :
    hearSegment s text = ((s.hear text true).1.beginSegment, (s.hear text true).2) := by
  rw [hearSegment, followUp]
  rintro t u heq
  exact h u (congrArg Prod.snd heq)

theorem exists_run_hearSegment (s : Session) (text : Text) :
    ∃ os, (hearSegment s text).1 = s.run os ∧ ∀ rules, .reload rules ∉ os := by
  by_cases h : ∃ u, (s.hear text true).2 = .ok (.process u)
  · obtain ⟨u, hu⟩ := h
    refine ⟨[.hear text true, .process u, .beginSegment], ?_, by simp⟩
    rw [hearSegment_of_process hu]
    rfl
  · refine ⟨[.hear text true, .beginSegment], ?_, by simp⟩
    rw [hearSegment_of_ne (not_exists.1 h)]
    rfl

theorem pending_hearSegment (ha : s.autoProcess = true) (hp : s.pending = []) (text : Text) :
    (hearSegment s text).1.pending = [] := by
  have hheard := Session.pending_hear_of_autoProcess ha hp text
  by_cases h : ∃ u, (s.hear text true).2 = .ok (.process u)
  · obtain ⟨u, hu⟩ := h
    rw [hearSegment_of_process hu]
    exact (Session.onward_process _ u).pending.elim (Eq.trans · hheard) id
  · rw [hearSegment_of_ne (not_exists.1 h)]
    exact hheard

theorem alikeSteps_hearSegment (hs : s.Alike t) (hr : isReversal (hearSegment s text).2 = false) :
    AlikeSteps (hearSegment s text) (hearSegment t text) := by
  by_cases h : ∃ u, (s.hear text true).2 = .ok (.process u)
  · obtain ⟨u, hu⟩ := h
    have hquiet : isReversal (s.hear text true).2 = false := by
      rw [hu]
      rfl
    rw [hearSegment_of_process hu] at hr ⊢
    obtain ⟨hheard, hanswer⟩ := hs.hear hquiet
    rw [hearSegment_of_process (hanswer.trans hu)]
    obtain ⟨hstep, hsame⟩ := hheard.process hr
    exact ⟨hstep.beginSegment, hsame⟩
  · rw [not_exists] at h
    rw [hearSegment_of_ne h] at hr ⊢
    obtain ⟨hheard, hanswer⟩ := hs.hear hr
    rw [hearSegment_of_ne (by rwa [hanswer])]
    exact ⟨hheard.beginSegment, hanswer⟩

end Segment

section Lines

def replies (s : Session) : List Text → List (Except Fault Outcome)
  | [] => []
  | line :: lines => (hearSegment s line.trim).2 :: replies (hearSegment s line.trim).1 lines

theorem alike_hearLines (hs : s.Alike t) (hr : ∀ r ∈ replies s lines, isReversal r = false) :
    (hearLines s lines).Alike (hearLines t lines) := by
  induction lines generalizing s t with
  | nil => exact hs
  | cons line lines ih =>
    obtain ⟨hstep, -⟩ := alikeSteps_hearSegment hs (hr _ List.mem_cons_self)
    exact ih hstep fun r h => hr r (List.mem_cons_of_mem _ h)

theorem hearLines_append (s : Session) (a b : List Text) :
    hearLines s (a ++ b) = hearLines (hearLines s a) b :=
  List.foldl_append

theorem exists_run_hearLines (s : Session) (lines : List Text) :
    ∃ os, hearLines s lines = s.run os ∧ ∀ rules, .reload rules ∉ os := by
  induction lines generalizing s with
  | nil => exact ⟨[], rfl, fun _ => List.not_mem_nil⟩
  | cons line lines ih =>
    obtain ⟨os, hos, hrules⟩ := exists_run_hearSegment s line.trim
    obtain ⟨os', hos', hrules'⟩ := ih (hearSegment s line.trim).1
    refine ⟨os ++ os', ?_, ?_⟩
    · rw [Session.run_append, ← hos]
      exact hos'
    · intro rules
      rw [List.mem_append, not_or]
      exact ⟨hrules rules, hrules' rules⟩

theorem setup_hearLines (s : Session) (lines : List Text) :
    (hearLines s lines).setup = s.setup := by
  obtain ⟨os, hos, hrules⟩ := exists_run_hearLines s lines
  rw [hos, Session.setup_run hrules]

theorem valid_hearLines (hv : s.document.selection.Valid s.document.buffer) (lines : List Text) :
    (hearLines s lines).document.selection.Valid (hearLines s lines).document.buffer := by
  obtain ⟨os, hos, -⟩ := exists_run_hearLines s lines
  rw [hos]
  exact Session.valid_run os hv

theorem ignoring_hearLines (hs : s.ignoring = false) (lines : List Text) :
    (hearLines s lines).ignoring = false := by
  induction lines generalizing s with
  | nil => exact hs
  | cons line lines ih => exact ih rfl

theorem pending_hearLines (ha : s.autoProcess = true) (hp : s.pending = []) (lines : List Text) :
    (hearLines s lines).pending = [] := by
  induction lines generalizing s with
  | nil => exact hp
  | cons line lines ih =>
    have hsetup : (hearSegment s line.trim).1.setup = s.setup := setup_hearLines s [line]
    exact ih ((congrArg (·.2.2.1) hsetup).trans ha) (pending_hearSegment ha hp line.trim)

end Lines

section Restart

variable (bindings : List (Text × Text)) {settings : Settings} {f g : Folder}
  {path name rules : Text}

/-- A session that listens after some lines goes on as one that is started on its document. -/
theorem alike_started {text : Option Text} {stored : Text} (ha : settings.autoProcess = true)
    (ht : t = hearLines (settings.started rules text) lines) (hlistening : t.listening = true)
    (hstored : unpark stored = t.document) : t.Alike (settings.started rules (some stored)) := by
  have hsetup : t.setup = (settings.started rules text).setup := ht ▸ setup_hearLines _ lines
  -- Each line ends its segment, and no text waits where dictation is put in at once.
  have hignoring : t.ignoring = false := ht ▸ ignoring_hearLines rfl lines
  have hpending : t.pending = [] := ht ▸ pending_hearLines ha rfl lines
  exact {
    rules := (congrArg (·.1) hsetup).symm
    generation := (congrArg (·.2.1) hsetup).symm
    document := hstored
    listening := hlistening.symm
    ignoring := hignoring.symm
    pending := hpending.symm
    autoProcess := (congrArg (·.2.2.1) hsetup).symm
    prompt := (congrArg (·.2.2.2) hsetup).symm }

theorem exists_alike_of_saved (ha : settings.autoProcess = true)
    (hpath : settings.documentPath = some path)
    (hfile : f.fileAt? path = some name) (hrules : rulesIn g settings = rulesIn f settings)
    (h : opened f settings = .ok s) (ht : t = hearLines s lines) (hlistening : t.listening = true)
    (hunmarked : Unmarked t.document.buffer) (hcaret : t.document.selection.isCaret = true)
    (hg : g.files = put name (park t.document) f.files) :
    ∃ s', opened g settings = .ok s' ∧ t.Alike s' := by
  obtain ⟨text, rules, -, hr, hcapacity, rfl⟩ := exists_of_opened h
  have hvalid : t.document.selection.Valid t.document.buffer := by
    rw [ht]
    apply valid_hearLines
    rw [document_started]
    exact Marker.valid_unpark _
  exact ⟨_, opened_of_read hpath (Folder.read_of_written hfile hg) (hrules.trans hr) hcapacity,
    alike_started ha ht hlistening (Marker.unpark_park_of_caret hunmarked hvalid hcaret)⟩

theorem files_console_of_plain (h : opened f settings = .ok s)
    (hplain : ∀ line ∈ lines, Line.Plain line) :
    (console bindings lines settings f).2.files =
      savedIn f settings.documentPath (hearLines s lines).document :=
  (console_of_ok h fun screen g => overLines_run_of_plain bindings lines settings hplain screen s
    g).1

theorem files_console_of_saved {a b : List Text} (ha : settings.autoProcess = true)
    (hplain : ∀ line ∈ b, Line.Plain line) (hrules : rulesIn g settings = rulesIn f settings)
    (h : opened f settings = .ok s) (ht : t = hearLines s a) (hlistening : t.listening = true)
    (hunmarked : Unmarked t.document.buffer) (hcaret : t.document.selection.isCaret = true)
    (hr : ∀ r ∈ replies t b, isReversal r = false)
    (hg : g.files = savedIn f settings.documentPath t.document) :
    (console bindings b settings g).2.files =
      savedIn f settings.documentPath (hearLines t b).document := by
  cases hfile : settings.documentPath.bind f.fileAt? with
  | none =>
    -- Nothing is stored, so it does not matter what either session came to.
    have hsame : g.files = f.files := hg.trans (savedIn_of_none hfile _)
    rw [files_console_of_plain bindings ((opened_congr hsame settings).trans h) hplain,
      savedIn_congr hsame, savedIn_of_none hfile, savedIn_of_none hfile]
  | some name =>
    obtain ⟨path, hpath, hname⟩ := Option.bind_eq_some_iff.1 hfile
    rw [hpath, savedIn_of_fileAt? hname] at hg ⊢
    obtain ⟨s', hs', halike⟩ :=
      exists_alike_of_saved ha hpath hname hrules h ht hlistening hunmarked hcaret hg
    have hname' : g.fileAt? path = some name := Folder.fileAt?_of_written hname hg
    rw [files_console_of_plain bindings hs' hplain, hpath, savedIn_of_fileAt? hname', hg,
      Folder.put_put, (alike_hearLines halike hr).document]

theorem rulesIn_console_of_plain (hplain : ∀ line ∈ lines, Line.Plain line)
    (helse : ∀ q path name, settings.rulesPath = some q → settings.documentPath = some path →
      f.fileAt? path = some name → f.fileAt? q ≠ some name) :
    rulesIn (console bindings lines settings f).2 settings = rulesIn f settings := by
  cases h : opened f settings with
  | error e => exact rulesIn_congr (files_console_of_error bindings _ h) settings
  | ok s =>
    obtain ⟨text, rules, -, hr, -, -⟩ := exists_of_opened h
    have hfiles := files_console_of_plain bindings h hplain
    cases hfile : settings.documentPath.bind f.fileAt? with
    | none => exact rulesIn_congr (hfiles.trans (savedIn_of_none hfile _)) settings
    | some name =>
      obtain ⟨path, hpath, hname⟩ := Option.bind_eq_some_iff.1 hfile
      rw [hpath, savedIn_of_fileAt? hname] at hfiles
      rw [hr]
      exact (rulesIn_of_written hname hfiles hr).2 fun q hq => helse q path name hq hpath hname

/-- A console that is left after some lines and started again for the others leaves the files as one
that hears them all, and sessions with different histories answer the same, as long as undo and redo
are not carried out. -/
theorem restart_changes_nothing :
    (∀ (bindings : List (Text × Text)) (settings : Settings) (f : Folder) (a b : List Text),
      settings.autoProcess = true → (∀ line ∈ a ++ b, Line.Plain line) →
      let first := (console bindings a settings f).2
      rulesIn first settings = rulesIn f settings →
      (∀ s, opened f settings = .ok s →
        let t := hearLines s a
        t.listening = true ∧ Unmarked t.document.buffer ∧ t.document.selection.isCaret = true ∧
          ∀ r ∈ replies t b, isReversal r = false) →
      (console bindings b settings first).2.files =
        (console bindings (a ++ b) settings f).2.files) ∧
    ∀ (s : Session) (h : History) (os : List Session.Operation),
      (∀ a ∈ s.answers os, ∀ r ∈ a, isReversal r = false) →
      let t : Session := { s with history := h }
      t.answers os = s.answers os ∧ ∃ k, t.run os = { s.run os with history := k } := by
  constructor
  · intro bindings settings f a b ha hplain first hrules hsplit
    rw [List.forall_mem_append] at hplain
    cases h : opened f settings with
    | error e =>
      have hfirst : first.files = f.files := files_console_of_error bindings _ h
      rw [files_console_of_error bindings _ h,
        files_console_of_error bindings _ ((opened_congr hfirst settings).trans h), hfirst]
    | ok s =>
      obtain ⟨hlistening, hunmarked, hcaret, hr⟩ := hsplit s h
      have hfirst : first.files = savedIn f settings.documentPath (hearLines s a).document :=
        files_console_of_plain bindings h hplain.1
      rw [files_console_of_plain bindings h (List.forall_mem_append.2 hplain), hearLines_append]
      exact files_console_of_saved bindings ha hplain.2 hrules h rfl hlistening hunmarked hcaret hr
        hfirst
  · intro s h os hr t
    have halike : s.Alike t := Session.alike_iff.2 ⟨h, rfl⟩
    obtain ⟨hrun, hanswers⟩ := halike.run hr
    exact ⟨hanswers, Session.alike_iff.1 hrun⟩

def letterFolder : Folder := ⟨[(['n'], ['k']), (['r'], "(?-i)u=undo\n2.\n(?-i)x=y".toList)], [], []⟩

def letterSettings : Settings :=
  { Settings.default with rulesPath := some ['r'], documentPath := some ['n'] }

def letterSession : Session :=
  letterSettings.started "(?-i)u=undo\n2.\n(?-i)x=y".toList (some ['k'])

theorem restart_changes_nothing_after_undo :
    let a : List Text := [['x'], ['z'], ['u']]
    let b : List Text := [['x'], ['z']]
    let t := hearLines letterSession a
    let os : List Session.Operation := [.hear ['x'] false, .beginSegment, .hear ['z'] true, .stop]
    (letterSettings.autoProcess = true ∧ (∀ line ∈ a ++ b, Line.Plain line) ∧
      rulesIn (console [] a letterSettings letterFolder).2 letterSettings =
        rulesIn letterFolder letterSettings ∧
      opened letterFolder letterSettings = .ok letterSession ∧
      (t.listening = true ∧ Unmarked t.document.buffer ∧ t.document.selection.isCaret = true ∧
        ∀ r ∈ replies t b, isReversal r = false) ∧
      (console [] b letterSettings (console [] a letterSettings letterFolder).2).2.files =
        (console [] (a ++ b) letterSettings letterFolder).2.files) ∧
    (∀ a ∈ letterSession.answers os, ∀ r ∈ a, isReversal r = false) ∧
      Session.answers { letterSession with history := t.history } os = letterSession.answers os ∧
      ∃ k, Session.run { letterSession with history := t.history } os =
        { letterSession.run os with history := k } := by
  intro a b t os
  have hplain : ∀ line ∈ a ++ b, Line.Plain line := fun line hline =>
    Line.plain_of_head? (by revert line; decide)
  have hrules : rulesIn (console [] a letterSettings letterFolder).2 letterSettings =
      rulesIn letterFolder letterSettings := by
    apply rulesIn_console_of_plain [] (List.forall_mem_append.1 hplain).1
    rintro _ _ name ⟨⟩ ⟨⟩ hname
    rw [← hname]
    decide
  have hopened : opened letterFolder letterSettings = .ok letterSession :=
    opened_of_read rfl (by decide) rfl (by decide)
  have hsplit : t.listening = true ∧ Unmarked t.document.buffer ∧
    t.document.selection.isCaret = true ∧
      ∀ r ∈ replies t b, isReversal r = false := by decide
  have hr : ∀ a ∈ letterSession.answers os, ∀ r ∈ a, isReversal r = false := by decide
  obtain ⟨hconsole, halike⟩ := restart_changes_nothing
  refine ⟨⟨rfl, hplain, hrules, hopened, hsplit, ?_⟩, hr, halike letterSession t.history os hr⟩
  apply hconsole [] letterSettings letterFolder a b rfl hplain hrules
  rintro s h
  obtain rfl : letterSession = s := Except.ok.inj (hopened.symm.trans h)
  exact hsplit

end Restart

end Dictation.Console
