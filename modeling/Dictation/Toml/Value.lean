import Dictation.Text.Basic

namespace Dictation.Toml

inductive Origin where
  | header
  /-- Implied by the header of a table inside it. -/
  | implied
  /-- Made by a dotted key. -/
  | dotted
  /-- Written in one place; nothing can be added. -/
  | closed
  deriving DecidableEq, Repr

inductive Value where
  | string (t : Text)
  | integer (i : Int)
  | float
  | boolean (b : Bool)
  | moment
  | array (items : List Value)
  | table (origin : Origin) (entries : List (Text × Value))
  /-- Tables opened by repeated headers, the latest first. -/
  | tables (items : List (List (Text × Value)))

abbrev Entries := List (Text × Value)

namespace Entries

def put (key : Text) (v : Value) : Entries → Entries
  | [] => [(key, v)]
  | (k, w) :: es => if k = key then (k, v) :: es else (k, w) :: put key v es

/-- Changes the entries of the table at the end of a path, making the tables on the way that are not
there. Dotted keys make tables of their own and do not enter tables opened by a header. -/
def within (dotted : Bool) (f : Origin → Entries → Option Entries) :
    List Text → Origin → Entries → Option Entries
  | [], origin, es => f origin es
  | key :: path, _, es =>
    match es.lookup key with
    | none =>
      let origin := if dotted then Origin.dotted else .implied
      (within dotted f path origin []).map fun inner => es ++ [(key, .table origin inner)]
    | some (.table origin inner) =>
      if origin = .closed ∨ (dotted ∧ origin = .header) then none
      else (within dotted f path origin inner).map fun inner => put key (.table origin inner) es
    | some (.tables (last :: earlier)) =>
      (within dotted f path .header last).map fun last => put key (.tables (last :: earlier)) es
    | some _ => none

/-- Adds an entry under a dotted key, the path being all but its last part. No key can be given
twice, and a table made by dotted keys takes entries from dotted keys only. -/
def addEntry (path : List Text) (key : Text) (v : Value) : Origin → Entries → Option Entries :=
  within true (fun origin es =>
    if (origin = .dotted) = (path = []) ∨ (es.lookup key).isSome then none
      else some (es ++ [(key, v)])) path

def openTable (path : List Text) (key : Text) (es : Entries) : Option Entries :=
  within false (fun _ es =>
    match es.lookup key with
    | none => some (es ++ [(key, .table .header [])])
    | some (.table .implied inner) => some (put key (.table .header inner) es)
    | some _ => none) path .header es

def openAnother (path : List Text) (key : Text) (es : Entries) : Option Entries :=
  within false (fun _ es =>
    match es.lookup key with
    | none => some (es ++ [(key, .tables [[]])])
    | some (.tables items) => some (put key (.tables ([] :: items)) es)
    | some _ => none) path .header es

end Entries

end Dictation.Toml
