import Dictation.Text.Basic

namespace Dictation.BuiltIn

def unlines (lines : List String) : Text := lines.flatMap fun l => l.toList ++ ['\n']

def rules : Text := unlines [
  "1. Commands (start with #)",
  "process=#process",
  "execute=#execute",
  "undo=#undo",
  "redo=#redo",
  "stop=#stop",
  "discard=#discard",
  "",
  "2. Substitutions",
  "period|full stop=.",
  "colon=:",
  "semicolon=;",
  "exclamation mark=!",
  "question mark=?",
  "comma=,",
  "new line|enter|new paragraph=\\n",
  "(smile|smiling|smiley) emoji=🙂",
  "heart emoji=❤️",
  "laughing emoji=😂",
  "crying emoji=😭",
  "(like|thumbs up) emoji=👍",
  "dislike emoji=👎",
  "angry emoji=😠",
  "sad emoji=😢",
  "happy emoji=😊",
  "url=https://",
  "(open|left) (parenthesis|parents)=(",
  "(close|right) (parenthesis|parents)=)",
  "double quote=\"",
  "single quote='",
  "",
  "3. Regex Operations (trigger=match_regex:::replacement)",
  "# Use 🅰️ for Cursor Start and 🅱️ for Cursor End",
  "space=🅰️[\\s\\S]*?🅱️::: 🅰️🅱️",
  "# Deletes the word immediately before the cursor/selection",
  "delete|backspace=(\\S+\\s*)?🅰️[\\s\\S]*?🅱️:::🅰️🅱️",
  "# Deletes the sentence segment immediately before the cursor",
  "sentence delete=[^.!?]+[.!?]*\\s*🅰️[\\s\\S]*?🅱️:::🅰️🅱️",
  "# Deletes selection",
  "selection delete=🅰️[\\s\\S]*?🅱️:::🅰️🅱️",
  "# Clears the entire document",
  "clear all=[\\s\\S]*:::🅰️🅱️",
  "# Clear spaces before cursor",
  "clear space=[ \\t]*🅰️([\\s\\S]*?)🅱️[ \\t]*:::🅰️$1🅱️",
  "",
  "# Move Up (to start of previous line)",
  "move up=(^|[\\s\\S]*\\n)([^\\n]*)\\n([^\\n]*)🅰️([\\s\\S]*?)🅱️([^\\n]*)([\\s\\S]*):::" ++
    "$1🅰️🅱️$2\\n$3$4$5$6",
  "# Move Down (to start of next line)",
  "move down=(^|[\\s\\S]*\\n)([^\\n]*)🅰️([\\s\\S]*?)🅱️([^\\n]*)\\n([^\\n]*)([\\s\\S]*):::" ++
    "$1$2$3$4\\n🅰️🅱️$5$6",
  "# Move to Start of Line",
  "move to start( of line)?=(^|[\\s\\S]*\\n)([^\\n]*)🅰️([\\s\\S]*?)🅱️([\\s\\S]*):::$1🅰️🅱️$2$3$4",
  "# Move to End of Line",
  "move to end( of line)?=(^|[\\s\\S]*\\n)([^\\n]*)🅰️([\\s\\S]*?)🅱️([^\\n]*)([\\s\\S]*):::" ++
    "$1$2$3$4🅰️🅱️$5",
  "# Move to Top (Start of Text)",
  "move to top=^([\\s\\S]*)🅰️([\\s\\S]*?)🅱️([\\s\\S]*)$:::🅰️🅱️$1$2$3",
  "# Move to Bottom (End of Text)",
  "move to bottom=^([\\s\\S]*)🅰️([\\s\\S]*?)🅱️([\\s\\S]*)$:::$1$2$3🅰️🅱️"
]

def prompt : Text := unlines [
  "You are a helpful text editing assistant.",
  "The user will provide text containing two cursor markers:",
  "🅰️ (start of selection/cursor) and 🅱️ (end of selection/cursor).",
  "If 🅰️ and 🅱️ are adjacent, it represents a caret position. " ++
    "If they surround text, it represents a selection.",
  "Your task is to follow the user's instruction to modify the text.",
  "Return ONLY the fully updated text content. " ++
    "Do not include any explanations or markdown formatting unless requested.",
  "By default, any new text should be inserted at a cursor position, " ++
    "replacing the selected text if any is selected.",
  "Your output should include the cursor position and selection, i.e. the special characters " ++
    "🅰️ and 🅱️. In case you just inserted text,",
  "by default the cursor should be at the end of the newly inserted text with nothing selected.",
  "",
  "USER_INSTRUCTION:"
]

end Dictation.BuiltIn
