import Dictation.Console.Arguments
import Dictation.Settings
import Dictation.Host

namespace Dictation.Console

inductive Failure where
  | fault (f : Fault)
  | reading (path : Text) (f : FileFault)
  | saving (path : Text) (f : FileFault)
  /-- There can be no history of the capacity asked for, which stops the program at once. What is
  reported then is the message without the place in the program. -/
  | overflow
  deriving DecidableEq, Repr

namespace Failure

def withCause (trial path cause : Text) : Text :=
  trial ++ " document ".toList ++ path ++ "\n\nCaused by:\n    ".toList ++ cause

def message : Failure → Text
  | fault f => f.message
  | reading path f => withCause "reading".toList path f.message
  | saving path f => withCause "saving".toList path f.message
  | overflow => "capacity overflow".toList

def report : Failure → Text
  | overflow => overflow.message
  | f => "Error: ".toList ++ f.message

def code : Failure → Nat
  | overflow => 101
  | _ => 1

end Failure

def version : Text := "voxedit 0.3.1\n".toList

def usage : Text :=
  ("Usage: voxedit [--config FILE] [--rules FILE] [--file FILE] [-v] " ++
   "[repl | check | apply [--text TEXT] [UTTERANCE]...]\n").toList

def help : Text :=
  ("  <text>           finished utterance\n" ++
   "  :interim <text>  interim (partial) utterance\n" ++
   "  :segment         start a new recognition segment\n" ++
   "  :listen          resume listening after stop\n" ++
   "  :reload          reload the rule file\n" ++
   "  :quit            save and exit\n").toList

def greeting : Text := "voxedit: type utterances, :help for console commands\n".toList

def ruleLine (r : Rule) : Text :=
  (Text.ofNat r.line).padLeft 4 ++ [if r.isMatchable then ' ' else '!', ' '] ++
    r.action.kind.padRight 12 ++ ' ' :: r.trigger ++ ['\n']

def checkReport (set : RuleSet) : Nat × Text × Text :=
  let listed := set.rules.flatMap ruleLine
  let count := Text.ofNat set.rules.length
  if set.warnings.isEmpty then (0, listed ++ count ++ " rules, no warnings\n".toList, [])
  else
    (1, listed, set.warnings.flatMap (fun w => "warning: ".toList ++ w.message ++ ['\n']) ++
      count ++ " rules, ".toList ++ Text.ofNat set.warnings.length ++ " warnings\n".toList)

/-- Processes a text that was handed over. There is no completion service, so instructions are
dropped. -/
def followUp : Step → Step
  | (s, .ok (.process text)) => s.process text
  | r => r

def hearSegment (s : Session) (utterance : Text) : Step :=
  let (s, result) := followUp (s.hear utterance true)
  (s.beginSegment, result)

def hearAll (s : Session) : List Text → Except Fault Session
  | [] => .ok s
  | u :: us => match hearSegment s u with
    | (s, .ok _) => hearAll s us
    | (_, .error f) => .error f

def applyAll (s : Session) (text : Text) (utterances : List Text) : Except Fault Text :=
  (hearAll (s.replaceDocument (.atEnd text) true) utterances).map (·.document.snapshot)

inductive Line where
  | quit
  | help
  | listen
  | segment
  | reload
  | interim (text : Text)
  | utterance (text : Text)
  deriving DecidableEq, Repr

def Line.read (line : Text) : Line :=
  let t := line.trim
  if t = ":quit".toList ∨ t = ":q".toList then .quit
  else if t = ":help".toList then .help
  else if t = ":listen".toList then .listen
  else if t = ":segment".toList then .segment
  else if t = ":reload".toList then .reload
  else if ":interim ".toList.isPrefixOf t then .interim (t.drop 9)
  else .utterance t

variable {m : Type → Type} [Monad m] (host : Host m)

def settingsAt (path : Text) : m (Except Fault Settings) := do
  match ← host.read path with
  | .error f => return .error (.settings path (.file f))
  | .ok t => match Settings.read? t with
    | none => return .error (.settings path .malformed)
    | some s => return .ok (← s.withVariables host.valueOf?)

def usualConfig : Text := "config.toml".toList

/-- The settings that options ask for. A usual settings file that cannot be used is passed over. -/
def settings (o : Options) : m (Except Fault Settings) := do
  let override (s : Settings) : Settings :=
    { s with rulesPath := o.rules.or s.rulesPath, documentPath := o.file.or s.documentPath }
  match o.config with
  | some path => return (← settingsAt host path).map override
  | none =>
    if ← host.isPresent usualConfig then
      match ← settingsAt host usualConfig with
      | .ok s => return .ok (override s)
      | .error _ => return .ok (override .default)
    else return .ok (override .default)

def rulesText (s : Settings) : m (Except Fault Text) :=
  match s.rulesPath with
  | none => pure (.ok BuiltIn.rules)
  | some path => do
    match ← host.read path with
    | .ok t => return .ok t
    | .error f => return .error (.settings path (.file f))

def fail (f : Failure) : m Nat := do
  host.err (f.report ++ ['\n'])
  return f.code

def check (s : Settings) : m Nat := do
  match ← rulesText host s with
  | .error f => fail host (.fault f)
  | .ok rules =>
    let (code, out, err) := checkReport (.read rules)
    host.out out
    host.err err
    return code

def apply (s : Settings) (text : Text) (utterances : List Text) : m Nat := do
  match ← rulesText host s with
  | .error f => fail host (.fault f)
  | .ok rules => match s.start? rules none with
    | none => fail host .overflow
    | some session => match applyAll session text utterances with
      | .error f => fail host (.fault f)
      | .ok t =>
        host.out (t ++ ['\n'])
        return 0

def showStep (screen : Screen) (r : Step) : m (ForInStep Session) := do
  match r with
  | (s, .ok o) => host.out (screen.draw s o)
  | (_, .error f) => host.err (f.message ++ ['\n'])
  return .yield r.1

def answer (settings : Settings) (screen : Screen) (s : Session) (line : Text) :
    m (ForInStep Session) := do
  match Line.read line with
  | .quit => return .done s
  | .help =>
    host.out help
    return .yield s
  | .listen => showStep host screen (s.listen, .ok .unchanged)
  | .segment => showStep host screen (s.beginSegment, .ok .unchanged)
  | .reload =>
    match ← rulesText host settings with
    | .ok rules => showStep host screen (s.reload rules, .ok .unchanged)
    | .error f => showStep host screen (s, .error f)
  | .interim text => showStep host screen (followUp (s.hear text false))
  | .utterance text => showStep host screen (hearSegment s text)

def stored (path : Option Text) : m (Except Failure (Option Text)) := do
  match path with
  | none => return .ok none
  | some path =>
    if ← host.isPresent path then
      match ← host.read path with
      | .ok t => return .ok (some t)
      | .error f => return .error (.reading path f)
    else return .ok none

def save (path : Option Text) (d : Document) : m Nat := do
  match path with
  | none => return 0
  | some path => match ← host.write path (Marker.park d) with
    | .ok () => return 0
    | .error f => fail host (.saving path f)

def repl (s : Settings) : m Nat := do
  match ← stored host s.documentPath with
  | .error f => fail host f
  | .ok text => match ← rulesText host s with
    | .error f => fail host (.fault f)
    | .ok rules => match s.start? rules text with
      | none => fail host .overflow
      | some session =>
        let screen := s.screen ((← host.valueOf? "NO_COLOR".toList).any fun v => !v.isEmpty)
        host.out (greeting ++ screen.draw session .unchanged)
        let session ← host.overLines session (answer host s screen)
        save host s.documentPath session.document

def run (arguments : List Text) : m Nat := do
  match Request.read arguments with
  | .version =>
    host.out version
    return 0
  | .help =>
    host.out usage
    return 0
  | .invalid =>
    host.err usage
    return 2
  | .run options task => match ← settings host options with
    | .error f => fail host (.fault f)
    | .ok s => match task with
      | .repl => repl host s
      | .check => check host s
      | .apply text utterances => apply host s text utterances

end Dictation.Console
