import Dictation.Toml.Reader
import Dictation.Screen.Basic

namespace Dictation

structure Settings where
  rulesPath : Option Text
  documentPath : Option Text
  capacity : Nat
  autoProcess : Bool
  prompt : Text
  highlight : Highlight
  showCaret : Bool
  deriving DecidableEq, Repr

namespace Settings

def default : Settings where
  rulesPath := none
  documentPath := none
  capacity := History.defaultCapacity
  autoProcess := true
  prompt := BuiltIn.prompt
  highlight := .yellow
  showCaret := true

open Toml (Value Entries)

/-- The settings of a section by their names, or by their places in an array. -/
structure Section where
  entries : Entries
  items : List Value

namespace Section

/-- A date takes the place of a section without settings. -/
def ofValue? : Value → Option Section
  | .table _ entries => some ⟨entries, []⟩
  | .array items => some ⟨[], items⟩
  | .tables items => some ⟨[], items.reverse.map (.table .header)⟩
  | .moment => some ⟨[], []⟩
  | _ => none

def get? (s : Section) (name : String) (place : Nat) : Option Value :=
  (s.entries.lookup name.toList).or s.items[place]?

end Section

def orElse {α : Type} (read : Value → Option α) (left : α) : Option Value → Option α
  | some v => read v
  | none => some left

def text? : Value → Option Text
  | .string t => some t
  | _ => none

def natural? : Value → Option Nat
  | .integer i => if 0 ≤ i then some i.toNat else none
  | _ => none

def boolean? : Value → Option Bool
  | .boolean b => some b
  | _ => none

def highlightNames : List (Text × Highlight) :=
  [("yellow".toList, .yellow), ("green".toList, .green), ("cyan".toList, .cyan),
    ("magenta".toList, .magenta), ("none".toList, .off)]

def isEmptyValue : Value → Bool
  | .array items => items.isEmpty
  | .table _ entries => entries.isEmpty
  | .tables items => items.isEmpty
  | _ => false

/-- A colour is given by its name, or by a table that has the name as its only key and nothing under
it. -/
def highlight? : Value → Option Highlight
  | .string t => highlightNames.lookup t
  | .table _ [(name, v)] => if isEmptyValue v then highlightNames.lookup name else none
  | _ => none

def ofEntries? (es : Entries) : Option Settings := do
  let section? (name : String) : Option Section :=
    orElse Section.ofValue? ⟨[], []⟩ (es.lookup name.toList)
  let rulesPath ← orElse (fun v => (text? v).map some) none (es.lookup "rules_path".toList)
  let documentPath ← orElse (fun v => (text? v).map some) none (es.lookup "document_path".toList)
  let history ← section? "history"
  let interaction ← section? "interaction"
  let completion ← section? "completion"
  let ui ← section? "ui"
  let capacity ← orElse natural? default.capacity (history.get? "capacity" 0)
  let autoProcess ← orElse boolean? default.autoProcess (interaction.get? "auto_process" 0)
  let prompt ← orElse text? default.prompt (completion.get? "system_prompt" 0)
  let highlight ← orElse highlight? default.highlight (ui.get? "highlight" 0)
  let showCaret ← orElse boolean? default.showCaret (ui.get? "show_caret" 1)
  return { rulesPath, documentPath, capacity, autoProcess, prompt, highlight, showCaret }

def read? (t : Text) : Option Settings := (Toml.read? t).bind ofEntries?

def opening : Text := ['$', '\x7b']

def firstVariable? (t : Text) : Option (Text × Text × Text) :=
  (t.splitOnce opening).bind fun (before, rest) =>
    (rest.splitOnce ['\x7d']).map fun (name, after) => (before, name, after)

/-- Replaces variables by their values until none is left. A variable without a value is replaced by
nothing; values may hold variables again, so that there need not be an end to it. -/
def expand {m : Type → Type} [Monad m] (valueOf? : Text → m (Option Text)) : Text → m Text :=
  repeatM fun t =>
    match firstVariable? t with
    | none => pure (.inr t)
    | some (before, name, after) => do
      let value ← valueOf? name
      return .inl (before ++ value.getD [] ++ after)

def withVariables {m : Type → Type} [Monad m] (s : Settings) (valueOf? : Text → m (Option Text)) :
    m Settings := do
  let rulesPath ← s.rulesPath.mapM (expand valueOf?)
  let documentPath ← s.documentPath.mapM (expand valueOf?)
  return { s with rulesPath, documentPath }

def screen (s : Settings) (colourless : Bool) : Screen := ⟨s.highlight, s.showCaret, colourless⟩

/-- A session under these settings, on a stored document if there is one; none when there can be no
history of their capacity. -/
def start? (s : Settings) (rules : Text) (stored : Option Text) : Option Session :=
  let session := Session.start (.read rules) (stored.elim Document.empty Marker.unpark)
  (session.withCapacity? s.capacity).map fun session =>
    (session.withAutoProcess s.autoProcess).withPrompt s.prompt

end Settings

end Dictation
