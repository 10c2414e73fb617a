import Dictation.Folder
import Dictation.Main
import Dictation.Proofs.History.Moves
import Dictation.Proofs.Marker.RoundTrip
import Dictation.Proofs.Session.Failure
import Dictation.Proofs.Session.Pending
import Dictation.Proofs.Session.Reversal
import Dictation.Proofs.Replacement
import Dictation.Proofs.Session.Restored
import Dictation.Proofs.Template
import Dictation.Proofs.Pattern.Following
import Dictation.Proofs.Pattern.Replacing
import Dictation.Proofs.BuiltIn.Rules
import Dictation.Proofs.BuiltIn.Shapes
import Dictation.Proofs.BuiltIn.Motion
import Dictation.Proofs.BuiltIn.Deletion
import Dictation.Proofs.Console.Restart
import Dictation.Proofs.Session.Unmarked
import Dictation.Proofs.Console.Checking
import Dictation.Proofs.Rule.Printing
import Dictation.Proofs.Rule.Invalid
import Dictation.Proofs.Session.Clamping
import Dictation.Proofs.Settings.Expansion
import Dictation.Proofs.Change
import Dictation.Proofs.Rule.Unchanged
import Dictation.Proofs.Console.Applying
import Dictation.Proofs.Rule.Precedence
import Dictation.Proofs.Edit
import Dictation.Proofs.Rule.Literal
import Dictation.Proofs.Session.Agreement
import Dictation.Proofs.Rule.Layout
import Dictation.Proofs.Marker.Spelling
import Dictation.Proofs.Marker.Displacement
import Dictation.Proofs.Screen.Columns
import Dictation.Proofs.Screen.Document
import Dictation.Proofs.Session.LostMarkers
import Dictation.Proofs.Rule.Discarding
