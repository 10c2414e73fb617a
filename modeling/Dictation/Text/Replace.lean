import Dictation.Text.Basic

namespace Dictation.Text

/-- The text from behind the next `skipped` characters on, with every occurrence replaced. -/
def replaceFrom (old new : Text) : Nat → Text → Text
  | _, [] => []
  | skipped + 1, _ :: t => replaceFrom old new skipped t
  | 0, c :: t =>
    if old.isPrefixOf (c :: t) then new ++ replaceFrom old new (old.length - 1) t
      else c :: replaceFrom old new 0 t

def replaceEach (old new t : Text) : Text := replaceFrom old new 0 t

end Dictation.Text
