import Dictation.Rule.Basic
import Dictation.Text.Lines

namespace Dictation

inductive Problem where
  | missingTrigger (number : Nat) (line : Text)
  | missingSeparator (number : Nat) (line : Text)
  | unknownCommand (name trigger : Text)
  | trigger (trigger : Text)
  | operation (trigger : Text)
  deriving DecidableEq, Repr

namespace Problem

def message : Problem → Text
  | missingTrigger number line =>
    "Missing trigger in section ".toList ++ Text.ofNat number ++ " rule: ".toList ++ line
  | missingSeparator number line =>
    "Invalid section ".toList ++ Text.ofNat number ++ " rule (missing ':::'): ".toList ++ line
  | unknownCommand name t =>
    "Unknown command '".toList ++ name ++ "' for trigger '".toList ++ t ++ "'".toList
  | trigger t => (Fault.trigger t).message
  | operation t => (Fault.operation t).message

def className : Problem → Text
  | missingTrigger _ _ | missingSeparator _ _ => "malformed".toList
  | unknownCommand _ _ => "unknown-command".toList
  | trigger _ => "invalid-trigger-regex".toList
  | operation _ => "invalid-operation-regex".toList

end Problem

structure Warning where
  line : Nat
  problem : Problem
  deriving DecidableEq, Repr

def Warning.message (w : Warning) : Text :=
  "line ".toList ++ Text.ofNat w.line ++ ": ".toList ++ w.problem.message

structure RuleSet where
  rules : List Rule
  warnings : List Warning
  deriving DecidableEq, Repr

namespace RuleSet

def empty : RuleSet := ⟨[], []⟩

def append (a b : RuleSet) : RuleSet := ⟨a.rules ++ b.rules, a.warnings ++ b.warnings⟩

def ofRule (r : Rule) : RuleSet where
  rules := [r]
  warnings :=
    (if r.isMatchable then [] else [⟨r.line, .trigger r.trigger⟩]) ++
    match r.operation with
    | .error (.operation trigger) => [⟨r.line, .operation trigger⟩]
    | _ => []

def ofProblem (line : Nat) (p : Problem) : RuleSet := ⟨[], [⟨line, p⟩]⟩

end RuleSet

namespace RuleFile

def section? (line : Text) : Option Nat :=
  let number := line.takeWhile Char.isDigit
  match line.drop number.length with
  | '.' :: _ => Text.toNat? (Nat.pow 2 32) number
  | _ => none

def isEntry (line : Text) : Bool := line.head? != some '#' && line.contains '='

def separator : Text := [':', ':', ':']

def action (number : Nat) (line trigger body : Text) : Except Problem Action :=
  if number = 3 ∨ (number ≠ 1 ∧ number ≠ 2 ∧ (body.splitOnce separator).isSome) then
    match body.splitOnce separator with
    | some (pattern, template) => .ok (.replacement pattern template)
    | none => .error (.missingSeparator number line)
  else if number = 1 then
    match Command.ofName? body with
    | some c => .ok (.command c)
    | none => .error (.unknownCommand body.trim trigger)
  else .ok (.substitution body.decodeNewlines)

def entry (number : Nat) (line : Text) : Except Problem (Text × Action) :=
  let (before, body) := (line.splitOnce ['=']).getD (line, [])
  let trigger := before.trim
  if trigger.isEmpty then .error (.missingTrigger number line)
  else (action number line trigger body).map fun a => (trigger, a)

def readEntry (number lineNumber : Nat) (line : Text) : RuleSet :=
  match entry number line with
  | .ok (trigger, action) => .ofRule ⟨trigger, action, lineNumber⟩
  | .error p => .ofProblem lineNumber p

def readLines (number lineNumber : Nat) : List Text → RuleSet
  | [] => .empty
  | line :: rest =>
    let line := line.trim
    match section? line with
    | some opened => readLines opened (lineNumber + 1) rest
    | none =>
      let rules := readLines number (lineNumber + 1) rest
      if isEntry line then (readEntry number lineNumber line).append rules else rules

end RuleFile

/-- Reads a rule file. Lines before the first section count as commands. -/
def RuleSet.read (t : Text) : RuleSet := RuleFile.readLines 1 1 t.lines

end Dictation
