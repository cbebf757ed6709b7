import BoardDebug.Text.Number

namespace BoardDebug.Text

/-- Reads a value off the front of a text, or refuses. -/
abbrev Scan := StateT (List Char) Option

namespace Scan

/-- The next character, which stays. -/
def peek : Scan (Option Char) := do
  return (← get).head?

/-- Takes the next character if it is `c`. -/
def eat (c : Char) : Scan Bool := do
  match ← get with
  | d :: rest =>
    if d = c then
      set rest
      return true
    else return false
  | [] => return false

/-- Takes the character `c`. -/
def expect (c : Char) : Scan Unit := do
  if ← eat c then return () else failure

/-- Takes any character. -/
def any : Scan Char := do
  match ← get with
  | c :: rest =>
    set rest
    return c
  | [] => failure

/-- Takes a word if it comes next. -/
def eatWord (word : List Char) : Scan Bool := do
  let text ← get
  if word.isPrefixOf text then
    set (text.drop word.length)
    return true
  else return false

def takeWhile (accepts : Char → Bool) : Scan (List Char) := do
  let text ← get
  set (text.dropWhile accepts)
  return text.takeWhile accepts

def skipWhile (accepts : Char → Bool) : Scan Unit := do
  let _ ← takeWhile accepts

/-- Reads a whole text. -/
def whole {α : Type} (scan : Scan α) (text : List Char) : Option α :=
  match scan.run text with
  | some (a, []) => some a
  | _ => none

end Scan

/-- Control characters, which have to be escaped in a string; a tab need not be. -/
def isControl (c : Char) : Bool :=
  (c < ' ' && c != '\t') || c == '\x7f'

/-- The code point with the next `count` hexadecimal digits. -/
def codePoint (count : Nat) : Scan Char := do
  let text ← get
  let digits := text.take count
  match digits? 16 digits with
  | some code =>
    if digits.length = count ∧ code.isValidChar then
      set (text.drop count)
      return .ofNat code
    else failure
  | none => failure

/-- The character that is spelled by a backslash and what follows here. -/
def escaped : Scan Char := do
  match ← Scan.any with
  | 'b' => return '\x08'
  | 't' => return '\t'
  | 'n' => return '\n'
  | 'f' => return '\x0c'
  | 'r' => return '\r'
  | '"' => return '"'
  | '\\' => return '\\'
  | 'u' => codePoint 4
  | 'U' => codePoint 8
  | _ => failure

end BoardDebug.Text
