import Dictation.Marker

namespace Dictation

inductive FileFault where
  | missing
  | notDirectory
  | isDirectory
  | nameTooLong
  | nullInName
  | other (message : Text)
  deriving DecidableEq, Repr

namespace FileFault

def message : FileFault → Text
  | missing => "No such file or directory (os error 2)".toList
  | notDirectory => "Not a directory (os error 20)".toList
  | isDirectory => "Is a directory (os error 21)".toList
  | nameTooLong => "File name too long (os error 36)".toList
  | nullInName => "file name contained an unexpected NUL byte".toList
  | other text => text

end FileFault

inductive Unusable where
  | file (fault : FileFault)
  | malformed
  deriving DecidableEq, Repr

def Unusable.message : Unusable → Text
  | file f => f.message
  | malformed => "<toml>".toList

inductive Fault where
  | trigger (trigger : Text)
  | operation (trigger : Text)
  | noOperation (trigger kind : Text)
  | markers (violation : Marker.Violation)
  | completion (reason : Text)
  | settings (path : Text) (cause : Unusable)
  deriving DecidableEq, Repr

namespace Fault

/-- Stands where a reason would be that is not told: why a text is not a pattern. -/
def unreadable : Text := "<regex>".toList

def message : Fault → Text
  | trigger t => "Invalid trigger '".toList ++ t ++ "': ".toList ++ unreadable
  | operation t => "Regex operation '".toList ++ t ++ "' failed: ".toList ++ unreadable
  | noOperation t kind =>
    "Regex operation '".toList ++ t ++ "' failed: ".toList ++ kind ++
      " rule has no regex operation".toList
  | markers v => "Marker protocol: ".toList ++ v.message
  | completion reason => "Completion error: ".toList ++ reason
  | settings path cause => "Config error: ".toList ++ path ++ ": ".toList ++ cause.message

def className : Fault → Text
  | trigger _ => "invalid-trigger-regex".toList
  | operation _ | noOperation _ _ => "invalid-operation-regex".toList
  | markers _ => "marker-protocol-violation".toList
  | completion _ => "completion".toList
  | settings _ _ => "config".toList

end Fault

end Dictation
