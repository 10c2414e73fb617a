import Dictation.Console.Run

namespace Dictation.Terminal

def errorNumber? : IO.Error → Option UInt32
  | .noFileOrDirectory _ n _ | .permissionDenied _ n _ | .inappropriateType _ n _
  | .noSuchThing _ n _
  | .invalidArgument _ n _ | .alreadyExists _ n _ | .resourceExhausted _ n _ => some n
  | .resourceBusy n _ | .unsupportedOperation n _ | .hardwareFault n _ | .illegalOperation n _
  | .otherError n _ => some n
  | _ => none

/-- The number of an error, which may be given as its negative. -/
def positive (n : UInt32) : UInt32 := if n < 0x80000000 then n else 0 - n

def faultOf (e : IO.Error) : FileFault :=
  match (errorNumber? e).map positive with
  | some 2 => .missing
  | some 20 => .notDirectory
  | some 21 => .isDirectory
  | some 36 => .nameTooLong
  | some 13 => .other "Permission denied (os error 13)".toList
  | some n => .other s!"{e} (os error {n})".toList
  | none => .other "stream did not contain valid UTF-8".toList

def orFault {α : Type} (act : IO α) : IO (Except FileFault α) := do
  try return .ok (← act) catch e => return .error (faultOf e)

partial def overInput {σ : Type} (s : σ) (f : σ → Text → IO (ForInStep σ)) : IO σ := do
  let line ← (← IO.getStdin).getLine
  if line.isEmpty then return s
  match ← f s ((Text.lines line.toList).headD []) with
  | .done s => return s
  | .yield s => overInput s f

def host : Host IO where
  read path := orFault do return (← IO.FS.readFile (String.ofList path)).toList
  write path t := orFault (IO.FS.writeFile (String.ofList path) (String.ofList t))
  isPresent path := do
    if path.isEmpty then return false
    ((← IO.currentDir) / String.ofList path).pathExists
  valueOf? name := do return (← IO.getEnv (String.ofList name)).map String.toList
  overLines := overInput
  out t := do
    let stream ← IO.getStdout
    stream.putStr (String.ofList t)
    stream.flush
  err t := do (← IO.getStderr).putStr (String.ofList t)

end Dictation.Terminal

def main (arguments : List String) : IO UInt32 := do
  return (← Dictation.Console.run Dictation.Terminal.host (arguments.map String.toList)).toUInt32
