import Dictation.Host
import Dictation.Text.Lines

namespace Dictation

structure Folder where
  files : List (Text × Text)
  out : Text
  err : Text
  deriving DecidableEq, Repr

namespace Folder

def parts (path : Text) : List Text := path.pieces '/'

inductive Target where
  | file (name : Text)
  | directory (parts : List Text)
  | outside (parts : List Text)
  | free (name : Text)
  /-- The file that is always empty. -/
  | sink
  deriving DecidableEq, Repr

def nameLimit : Nat := 255

def pathLimit : Nat := 4095

def join : List Text → Text
  | [] => []
  | [p] => p
  | p :: ps => p ++ '/' :: join ps

def isKnownOutside (ps : List Text) : Bool := ps.isEmpty || ps == ["tmp".toList] ||
    ps == ["dev".toList]

def step (files : List (Text × Text)) (at? : Target) (part : Text) : Except FileFault Target :=
  match at? with
  | .file _ | .sink => .error .notDirectory
  | .free _ => .error .missing
  | .outside ps =>
    if part = [] ∨ part = ['.'] then .ok (.outside ps)
    else if part = ['.', '.'] then .ok (.outside ps.dropLast)
    else if nameLimit < part.size then .error .nameTooLong
    else if ps ++ [part] = ["dev".toList, "null".toList] then .ok .sink
    else if isKnownOutside (ps ++ [part]) then .ok (.outside (ps ++ [part]))
    else .error .missing
  | .directory ps =>
    if part = [] ∨ part = ['.'] then .ok (.directory ps)
    else if part = ['.', '.'] then if ps.isEmpty then .ok (.outside [])
      else .ok (.directory ps.dropLast)
    else if nameLimit < part.size then .error .nameTooLong
    else
      let here := ps ++ [part]
      if (files.lookup (join here)).isSome then .ok (.file (join here))
      else if files.any fun f => here.isPrefixOf (parts f.1) then .ok (.directory here)
      else .ok (.free (join here))

/-- Where a path leads, unless a part on the way is missing or is no directory. -/
def resolve (files : List (Text × Text)) (path : Text) : Except FileFault Target :=
  if path.contains '\x00' then .error .nullInName
  else if path.isEmpty then .error .missing
  else if pathLimit < path.size then .error .nameTooLong
  else
    match parts path with
    | [] :: rest => rest.foldlM (step files) (.outside [])
    | ps => ps.foldlM (step files) (.directory [])

def read (f : Folder) (path : Text) : Except FileFault Text :=
  match resolve f.files path with
  | .error e => .error e
  | .ok (.file name) => .ok ((f.files.lookup name).getD [])
  | .ok (.directory _) | .ok (.outside _) => .error .isDirectory
  | .ok (.free _) => .error .missing
  | .ok .sink => .ok []

def put (name t : Text) : List (Text × Text) → List (Text × Text)
  | [] => [(name, t)]
  | (n, u) :: fs => if n = name then (n, t) :: fs else (n, u) :: put name t fs

def dropSlashes (path : Text) : Text := (path.reverse.dropWhile (· == '/')).reverse

def write (f : Folder) (path t : Text) : Except FileFault Folder :=
  match resolve f.files path with
  | .ok (.file name) | .ok (.free name) => .ok { f with files := put name t f.files }
  | .ok (.directory _) | .ok (.outside _) => .error .isDirectory
  | .ok .sink => .ok f
  | .error .missing =>
    match resolve f.files (dropSlashes path) with
    | .ok (.free _) => .error .isDirectory
    | _ => .error .missing
  | .error e => .error e

def isPresent (f : Folder) (path : Text) : Bool :=
  match resolve f.files path with
  | .ok (.free _) | .error _ => false
  | .ok _ => true

/-- The text after a variable's name and an equals sign, where they first occur. -/
def valueOf? (bindings : List (Text × Text)) (name : Text) : Option Text :=
  if name.isEmpty || name.contains '\x00' then none
  else bindings.findSome? fun (n, value) =>
    let entry := n ++ '=' :: value
    if (name ++ ['=']).isPrefixOf entry then some (entry.drop (name.length + 1)) else none

def overLines {m : Type → Type} [Monad m] {σ : Type} (f : σ → Text → m (ForInStep σ)) :
    List Text → σ → m σ
  | [], s => pure s
  | line :: rest, s => do
    match ← f s line with
    | .done s => pure s
    | .yield s => overLines f rest s

/-- The folder as surroundings, with bindings of variables and lines of input. -/
def host (bindings : List (Text × Text)) (input : List Text) : Host (StateM Folder) where
  read path := do return (← get).read path
  write path t := do
    match (← get).write path t with
    | .ok f => set f; return .ok ()
    | .error e => return .error e
  isPresent path := do return (← get).isPresent path
  valueOf? name := pure (valueOf? bindings name)
  overLines s f := overLines f input s
  out t := modify fun f => { f with out := f.out ++ t }
  err t := modify fun f => { f with err := f.err ++ t }

end Folder

end Dictation
