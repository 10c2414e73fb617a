import Dictation.Text.Basic
import Dictation.Character.Blank

namespace Dictation.Text

open Character

def trimStart (t : Text) : Text := t.dropWhile isBlank

def trimEnd (t : Text) : Text := (t.reverse.dropWhile isBlank).reverse

def trim (t : Text) : Text := trimEnd (trimStart t)

end Dictation.Text
