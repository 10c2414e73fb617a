import Dictation.Proofs.Console.Running

namespace Dictation.Console

open Folder (put)
open Marker (Unmarked caretSymbol park strip unpark)

variable (bindings : List (Text × Text)) {input : List Text} {settings : Settings} {f : Folder}
  {s : Session} {path name t : Text}

/-- Whether a console with this input is left before it hears anything. -/
def Quits (input : List Text) : Prop := ∀ line ∈ input.head?, Line.read line = .quit

theorem document_started (settings : Settings) (rules : Text) (text : Option Text) :
    (settings.started rules text).document = unpark (text.getD []) := by
  cases text with
  | none => rfl
  | some t => rfl

theorem console_of_quits (hquits : Quits input) (h : opened f settings = .ok s) :
    (console bindings input settings f).2.files = savedIn f settings.documentPath s.document ∧
      ((settings.documentPath.bind f.fileAt?).isSome → (console bindings input settings f).1 = 0) :=
  console_of_ok h fun screen g => ⟨g, overLines_run_of_quit hquits screen s g, rfl⟩

theorem opened_of_saved {g : Folder} (hpath : settings.documentPath = some path)
    (hfile : f.fileAt? path = some name)
    (h : opened f settings = .ok s) (hg : g.files = put name (park s.document) f.files) :
    ∃ s', opened g settings = .ok s' ∧ s'.document = s.document := by
  obtain ⟨text, rules, -, hr, hcapacity, rfl⟩ := exists_of_opened h
  obtain ⟨⟨rules', hr'⟩, -⟩ := rulesIn_of_written hfile hg hr
  refine ⟨_, opened_of_read hpath (Folder.read_of_written hfile hg) hr' hcapacity, ?_⟩
  rw [document_started, document_started]
  exact Marker.unpark_park_unpark _

theorem console_of_savedIn {g : Folder} (hquits : Quits input) (h : opened f settings = .ok s)
    (hg : g.files = savedIn f settings.documentPath s.document) :
    (console bindings input settings g).2.files = g.files ∧
      ((settings.documentPath.bind f.fileAt?).isSome →
        (console bindings input settings g).1 = 0) := by
  cases hfile : settings.documentPath.bind f.fileAt? with
  | none =>
    have hfiles : g.files = f.files := hg.trans (savedIn_of_none hfile _)
    have hopened : opened g settings = .ok s := (opened_congr hfiles settings).trans h
    obtain ⟨hrun, -⟩ := console_of_quits bindings hquits hopened
    refine ⟨?_, nofun⟩
    rw [hrun, savedIn_congr hfiles, savedIn_of_none hfile, hfiles]
  | some name =>
    obtain ⟨path, hpath, hname⟩ := Option.bind_eq_some_iff.1 hfile
    rw [hpath, savedIn_of_fileAt? hname] at hg
    obtain ⟨s', hs', hd⟩ := opened_of_saved hpath hname h hg
    obtain ⟨hrun, hcode⟩ := console_of_quits bindings hquits hs'
    have hname' : g.fileAt? path = some name := Folder.fileAt?_of_written hname hg
    refine ⟨?_, fun _ => hcode ?_⟩
    · rw [hrun, hpath, savedIn_of_fileAt? hname', hd, hg, Folder.put_put]
    · rw [hpath, Option.bind_some, hname']
      rfl

theorem files_console_console (bindings' : List (Text × Text)) {input' : List Text} (f : Folder)
    (hquits : Quits input) (hquits' : Quits input') :
    (console bindings' input' settings (console bindings input settings f).2).2.files =
      (console bindings input settings f).2.files := by
  cases h : opened f settings with
  | error e =>
    have hfiles := files_console_of_error bindings input h
    exact files_console_of_error bindings' input' ((opened_congr hfiles settings).trans h)
  | ok s => exact (console_of_savedIn bindings' hquits' h (console_of_quits bindings hquits h).1).1

/-- What is stored of a document gives it back. Any stored text is read as what is ordinary in it,
with a caret where its first caret symbol stands, and storing that is final: a console that hears
nothing leaves it behind, and a second one changes no file. Where there can be no history of the
capacity in the settings, neither console starts. -/
theorem storage_keeps_documents :
    (∀ d : Document, Unmarked d.buffer → unpark (park d) = ⟨d.buffer, .caret d.clamped.start⟩) ∧
    (∀ t : Text, (unpark t).buffer = strip t ∧ (unpark t).selection.Valid (unpark t).buffer ∧
      (caretSymbol ∈ t →
        (unpark t).selection = .caret (strip (t.takeWhile (· ≠ caretSymbol))).size) ∧
      (caretSymbol ∉ t → (unpark t).selection = .caret (strip t).size) ∧
      unpark (park (unpark t)) = unpark t) ∧
    ∀ (bindings bindings' : List (Text × Text)) (input input' : List Text) (settings : Settings)
        (f : Folder), Quits input → Quits input' →
      let first := console bindings input settings f
      let second := console bindings' input' settings first.2
      second.2.files = first.2.files ∧
      ∀ path name t rules, settings.documentPath = some path → f.fileAt? path = some name →
        f.read path = .ok t → rulesIn f settings = .ok rules →
        (settings.capacity ≤ History.maxCapacity →
          first.1 = 0 ∧ first.2.files = put name (park (unpark t)) f.files ∧
            first.2.read path = .ok (park (unpark t)) ∧ second.1 = 0) ∧
        (History.maxCapacity < settings.capacity →
          first.1 = 101 ∧ first.2.files = f.files ∧ second.1 = 101) := by
  refine ⟨fun d => Marker.unpark_park, fun t => ?_, ?_⟩
  · have h := Marker.unpark_eq t
    refine ⟨?_, Marker.valid_unpark t, fun hmem => ?_, fun hmem => ?_, Marker.unpark_park_unpark t⟩
    · rw [h, Marker.strip_eq_ordinary]
    · rw [h, Marker.parkedPlace, if_pos hmem, Marker.placeOf, Marker.strip_eq_ordinary]
    · rw [h, Marker.parkedPlace, if_neg hmem, Marker.strip_eq_ordinary]
  · intro bindings bindings' input input' settings f hquits hquits' first second
    refine ⟨files_console_console bindings bindings' f hquits hquits', ?_⟩
    intro path name t rules hpath hname hread hrules
    refine ⟨fun hcapacity => ?_, fun hcapacity => ?_⟩
    · have hopened := opened_of_read hpath hread hrules hcapacity
      have hsome : (settings.documentPath.bind f.fileAt?).isSome := by
        rw [hpath, Option.bind_some, hname]
        rfl
      obtain ⟨hfiles, hcode⟩ := console_of_quits bindings hquits hopened
      have hsecond := (console_of_savedIn bindings' hquits' hopened hfiles).2 hsome
      rw [hpath, savedIn_of_fileAt? hname, document_started] at hfiles
      exact ⟨hcode hsome, hfiles, Folder.read_of_written hname hfiles, hsecond⟩
    · have hopened : opened f settings = .error .overflow := by
        rw [opened_of_rulesIn (hpath ▸ storedIn_of_read hread) hrules,
          Settings.start?_eq_none_iff.2 hcapacity]
      have hfirst := console_of_error bindings input hopened
      have hfiles := files_console_of_error bindings input hopened
      have hsecond := console_of_error bindings' input'
        ((opened_congr hfiles settings).trans hopened)
      exact ⟨congrArg Prod.fst hfirst, hfiles, congrArg Prod.fst hsecond⟩

theorem storage_keeps_documents_of_quit :
    let d : Document := ⟨['é', 'b'], ⟨1, 9⟩⟩
    let t : Text := ['é', Marker.startBase, Marker.selector, caretSymbol, Marker.selector, 'b',
      caretSymbol]
    let u : Text := ['é', caretSymbol, Marker.selector, 'b']
    let settings : Settings := { Settings.default with documentPath := some ['n'] }
    let f : Folder := ⟨[(['m'], []), (['n'], t)], [], []⟩
    let first := console [] [":quit".toList] settings f
    let second := console [] [] settings first.2
    (Unmarked d.buffer ∧ unpark (park d) = ⟨['é', 'b'], .caret 0⟩) ∧
      (caretSymbol ∈ t ∧ (unpark t).selection = .caret 2) ∧
      (caretSymbol ∉ strip t ∧ (unpark (strip t)).selection = .caret 6) ∧
      Quits [":quit".toList] ∧ f.fileAt? ['n'] = some ['n'] ∧ f.read ['n'] = .ok t ∧
      rulesIn f settings = .ok BuiltIn.rules ∧ settings.capacity ≤ History.maxCapacity ∧
        first.1 = 0 ∧ first.2.files = [(['m'], []), (['n'], u)] ∧
      second.1 = 0 ∧ second.2.files = first.2.files := by
  intro d t u settings f first second
  have hd : Unmarked d.buffer := by decide
  have ht : caretSymbol ∈ t := by decide
  have hs : caretSymbol ∉ strip t := by decide
  have hquits : Quits [":quit".toList] := by
    rintro line ⟨⟩
    decide
  have hquits' : Quits [] := nofun
  have hfile : f.fileAt? ['n'] = some ['n'] := by decide
  have hread : f.read ['n'] = .ok t := by decide
  have hrules : rulesIn f settings = .ok BuiltIn.rules := rfl
  obtain ⟨hunpark, hstored, hconsole⟩ := storage_keeps_documents
  obtain ⟨hsame, hfirst⟩ := hconsole [] [] [":quit".toList] [] settings f hquits hquits'
  have hcapacity : settings.capacity ≤ History.maxCapacity := by decide
  obtain ⟨hcode, hfiles, -, hcode'⟩ := (hfirst _ _ _ _ rfl hfile hread hrules).1 hcapacity
  have hu : put ['n'] (park (unpark t)) f.files = [(['m'], []), (['n'], u)] := by decide
  refine ⟨⟨hd, (hunpark d hd).trans (by decide)⟩, ⟨ht, ((hstored t).2.2.1 ht).trans (by decide)⟩,
    ⟨hs, ((hstored _).2.2.2.1 hs).trans (by decide)⟩, hquits, hfile, hread, hrules, hcapacity,
    hcode, hfiles.trans hu, hcode', hsame⟩

end Dictation.Console
