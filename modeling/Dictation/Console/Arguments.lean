import Dictation.Text.Lines

namespace Dictation.Console

inductive Task where
  | repl
  | check
  | apply (text : Text) (utterances : List Text)
  deriving DecidableEq, Repr

structure Options where
  config : Option Text
  rules : Option Text
  file : Option Text
  deriving DecidableEq, Repr

inductive Request where
  | version
  | help
  | invalid
  | run (options : Options) (task : Task)
  deriving DecidableEq, Repr

/-- Where options are given: before the task's name, or after it. -/
inductive Level where
  | top
  | repl
  | check
  | apply
  deriving DecidableEq, Repr

inductive Key where
  | config
  | rules
  | file
  | text
  deriving DecidableEq, Repr

namespace Key

def ofName? (level : Level) (name : Text) : Option Key :=
  if name = "config".toList then some config
  else if name = "rules".toList then some rules
  else if name = "file".toList then some file
  else if name = "text".toList ∧ level = .apply then some text
  else none

def takesEmpty (k : Key) : Bool := k == text

end Key

structure Given where
  values : List (Key × Text) := []
  verbose : Bool := false
  words : List Text := []

namespace Given

/-- Takes a value for an option, which can be given once. -/
def put? (g : Given) (k : Key) (v : Text) : Option Given :=
  if (g.values.lookup k).isSome || (v.isEmpty && !k.takesEmpty) then none
  else some { g with values := (k, v) :: g.values }

def setVerbose? (g : Given) : Option Given := if g.verbose then none
    else some { g with verbose := true }

def addWord? (level : Level) (g : Given) (w : Text) : Option Given :=
  if level = .apply then some { g with words := w :: g.words } else none

def options (g : Given) : Options :=
  ⟨g.values.lookup .config, g.values.lookup .rules, g.values.lookup .file⟩

end Given

def levelOf? (name : Text) : Option Level :=
  if name = "repl".toList then some .repl
  else if name = "check".toList then some .check
  else if name = "apply".toList then some .apply
  else none

def isOption : Text → Bool
  | '-' :: _ :: _ => true
  | _ => false

abbrev Read := Except Request Given

def letters (level : Level) : Text → Given → Read
  | [], g => .ok g
  | 'v' :: t, g => match g.setVerbose? with
    | some g => letters level t g
    | none => .error .invalid
  | 'h' :: _, _ => .error .help
  | 'V' :: _, _ => .error (if level = .top then .version else .invalid)
  | _, _ => .error .invalid

def flag (level : Level) (name : Text) (g : Given) : Read :=
  if name = "verbose".toList then match g.setVerbose? with
    | some g => .ok g
    | none => .error .invalid
  else if name = "help".toList then .error .help
  else if name = "version".toList ∧ level = .top then .error .version
  else .error .invalid

def readTask (level : Level) : Given → List Text → Read
  | g, [] => .ok g
  | g, ['-', '-'] :: rest =>
    if rest.isEmpty then .ok g
    else if level = .apply then .ok { g with words := rest.reverse ++ g.words }
    else .error .invalid
  | g, ('-' :: '-' :: a) :: rest =>
    match Text.splitOnce a ['='] with
    | some (name, v) => match (Key.ofName? level name).bind fun k => g.put? k v with
      | some g => readTask level g rest
      | none => .error .invalid
    | none => match Key.ofName? level a, rest with
      | some k, v :: rest => match if isOption v then none else g.put? k v with
        | some g => readTask level g rest
        | none => .error .invalid
      | some _, [] => .error .invalid
      | none, rest => match flag level a g with
        | .ok g => readTask level g rest
        | .error r => .error r
  | g, a :: rest =>
    if isOption a then match letters level (a.drop 1) g with
      | .ok g => readTask level g rest
      | .error r => .error r
    else match g.addWord? level a with
      | some g => readTask level g rest
      | none => .error .invalid

def taskOf (level : Level) (g : Given) : Task :=
  match level with
  | .top | .repl => .repl
  | .check => .check
  | .apply => .apply ((g.values.lookup .text).getD []) g.words.reverse

def request (top : Given) (level : Level) (inner : Given) : Request :=
  let a := top.options
  let b := inner.options
  .run ⟨b.config.or a.config, b.rules.or a.rules, b.file.or a.file⟩ (taskOf level inner)

/-- Where the name of a task stands among arguments: the arguments before it, its level, and those
after it. A value of an option is no name. -/
def splitTask : List Text → List Text × Option (Option Level × List Text)
  | [] => ([], none)
  | ['-', '-'] :: rest => (['-', '-'] :: rest, none)
  | a :: rest =>
    if isOption a then
      match a, rest with
      | '-' :: '-' :: name, v :: rest =>
        if (Key.ofName? .top name).isSome && !isOption v then
          let (before, task) := splitTask rest
          (a :: v :: before, task)
        else
          let (before, task) := splitTask (v :: rest)
          (a :: before, task)
      | _, rest =>
        let (before, task) := splitTask rest
        (a :: before, task)
    else match levelOf? a with
      | some level => ([], some (some level, rest))
      | none => if a = "help".toList then ([], some (none, rest)) else (a :: rest, none)

def Request.read (arguments : List Text) : Request :=
  let (before, task) := splitTask arguments
  match readTask .top {} before with
  | .error r => r
  | .ok top => match task with
    | none => request top .top {}
    | some (none, rest) =>
      if rest.all fun a => (levelOf? a).isSome || a = "help".toList then .help else .invalid
    | some (some level, rest) => match readTask level {} rest with
      | .error r => r
      | .ok inner => request top level inner

end Dictation.Console
