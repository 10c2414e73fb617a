import Dictation.Toml.Scalar

namespace Dictation.Toml

def skipSpace (t : Text) : Text := t.dropWhile isSpace

def skipComment : Text → Text
  | '#' :: t => t.dropWhile isPlain
  | t => t

def endLine? (t : Text) : Option Text :=
  match skipComment (skipSpace t) with
  | [] => some []
  | '\n' :: t => some t
  | '\r' :: '\n' :: t => some t
  | _ => none

/-- Skips blanks, comments and the ends of lines; `inComment` tells whether a comment has begun. -/
def skipLines (inComment : Bool) : Text → Text
  | [] => []
  | '\n' :: t => skipLines false t
  | '\r' :: '\n' :: t => skipLines false t
  | c :: t =>
    if inComment then if isPlain c then skipLines true t else c :: t
    else if isSpace c then skipLines false t
    else if c = '#' then skipLines true t
    else c :: t

def isKeyChar (c : Char) : Bool := c.isAlphanum || c == '-' || c == '_'

def keyPart? (t : Text) : Option (Text × Text) :=
  match t with
  | '"' :: t => quoted? t
  | '\'' :: t => literal? t
  | t =>
    let name := t.takeWhile isKeyChar
    if name.isEmpty then none else some (name, t.drop name.length)

def depthLimit : Nat := 80

def keyParts? : Nat → Text → Option (List Text × Text)
  | 0, _ => none
  | n + 1, t => (keyPart? (skipSpace t)).bind fun (k, t) =>
    match skipSpace t with
    | '.' :: t => (keyParts? n t).map fun (ks, t) => (k :: ks, t)
    | t => some ([k], t)

/-- Reads a key: the parts before the last one, and the last one. -/
def key? (t : Text) : Option ((List Text × Text) × Text) :=
  (keyParts? (depthLimit - 1) t).bind fun (ks, t) => ks.getLast?.map fun k => ((ks.dropLast, k), t)

def pair? (value : Text → Option (Value × Text)) (t : Text) :
    Option ((List Text × Text) × Value × Text) :=
  (key? t).bind fun (k, t) =>
    match t with
    | '=' :: t => (value (skipSpace t)).map fun (v, t) => (k, v, t)
    | _ => none

def items? (value : Text → Option (Value × Text)) : Nat → Text → Option (List Value × Text)
  | 0, _ => none
  | n + 1, t =>
    match skipLines false t with
    | ']' :: t => some ([], t)
    | t => (value t).bind fun (v, t) =>
      match skipLines false t with
      | ',' :: t => (items? value n t).map fun (vs, t) => (v :: vs, t)
      | ']' :: t => some ([v], t)
      | _ => none

def entries? (value : Text → Option (Value × Text)) : Nat → Entries → Text → Option (Entries × Text)
  | 0, _, _ => none
  | n + 1, es, t => (pair? value t).bind fun ((path, k), v, t) =>
    (Entries.addEntry path k v .header es).bind fun es =>
      match skipSpace t with
      | ',' :: t => entries? value n es t
      | '\x7d' :: t => some (es, t)
      | _ => none

def value? : Nat → Text → Option (Value × Text)
  | 0, t => scalar? t
  | depth + 1, t =>
    match t with
    | '[' :: t => (items? (value? depth) (t.length + 1) t).map fun (vs, t) => (.array vs, t)
    | '\x7b' :: t =>
      match skipSpace t with
      | '\x7d' :: t => some (.table .closed [], t)
      | t => (entries? (value? depth) (t.length + 1) [] t).map fun (es, t) => (.table .closed es, t)
    | t => scalar? t

/-- What has been read: all entries, and the path of the header that further ones belong to. -/
structure Reading where
  root : Entries
  here : List Text

namespace Reading

def start : Reading := ⟨[], []⟩

def entry? (s : Reading) (t : Text) : Option (Reading × Text) :=
  (pair? (value? (depthLimit - 1)) t).bind fun ((path, k), v, t) =>
    (endLine? t).bind fun t =>
      (Entries.within false (Entries.addEntry path k v) s.here .header s.root).map fun root =>
        ({ s with root }, t)

def header? (s : Reading) (t : Text) : Option (Reading × Text) :=
  match t with
  | '[' :: t => (key? t).bind fun ((path, k), t) =>
    match t with
    | ']' :: ']' :: t => close path k (Entries.openAnother path k s.root) t
    | _ => none
  | t => (key? t).bind fun ((path, k), t) =>
    match t with
    | ']' :: t => close path k (Entries.openTable path k s.root) t
    | _ => none
where
  close (path : List Text) (k : Text) (root : Option Entries) (t : Text) :
    Option (Reading × Text) :=
    root.bind fun root => (endLine? t).map fun t => (⟨root, path ++ [k]⟩, t)

def line? (s : Reading) (t : Text) : Option (Reading × Text) :=
  match t with
  | '[' :: t => s.header? t
  | '#' :: _ | '\n' :: _ | '\r' :: _ => (endLine? t).map (s, ·)
  | t => s.entry? t

def run? : Nat → Reading → Text → Option Entries
  | 0, _, _ => none
  | n + 1, s, t =>
    match skipSpace t with
    | [] => some s.root
    | t => (s.line? t).bind fun (s, t) => run? n s t

end Reading

def dropMark : Text → Text
  | '\ufeff' :: t => t
  | t => t

def read? (t : Text) : Option Entries :=
  let t := dropMark t
  Reading.run? (t.length + 1) .start t

end Dictation.Toml
