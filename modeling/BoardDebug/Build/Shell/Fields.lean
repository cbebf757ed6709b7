import BoardDebug.Build.Shell.Pattern

namespace BoardDebug.Build.Shell

/-- A character that a part of a word says. -/
inductive Atom where
  | char (c : Char) (isQuoted : Bool)
  /-- A character at which the word may be split. -/
  | loose (c : Char)
  /-- Quotes, which make a word even if nothing is in them. -/
  | quotes
  /-- The beginning of a value that may be split. -/
  | start
  /-- The end of an argument, at which the word is split. -/
  | cut

namespace Atom

/-- The text of atoms without regard to splitting. -/
def text (atoms : List Atom) : List Char :=
  atoms.filterMap fun
    | .char c _ => some c
    | .loose c => some c
    | .cut => some ' '
    | _ => none

def pattern (atoms : List Atom) : Pattern :=
  atoms.filterMap fun
    | .char c isQuoted => some (c, isQuoted)
    | .loose c => some (c, false)
    | .cut => some (' ', true)
    | _ => none

/-- The characters of a value, as a part of a word. -/
def ofValue (isQuoted : Bool) (text : List Char) : List Atom :=
  if isQuoted then .quotes :: text.map (.char · true) else .start :: text.map .loose

/-- The characters of a word that stands for a value, which is split unless it is quoted. -/
def loosened (isQuoted : Bool) (atoms : List Atom) : List Atom :=
  if isQuoted then atoms
  else atoms.map fun
    | .char c false => .loose c
    | atom => atom

end Atom

/-- Fields of a word: those that are complete, the latest first, and the one begun. -/
structure Fields where
  complete : List Pattern := []
  begun : Option Pattern := none
  /-- Whether blanks have ended the last field, so that they and a sign behind them are one end. -/
  isBlankEnd : Bool := false

namespace Fields

def extend (f : Fields) (pattern : Pattern) : Fields :=
  { f with begun := some (f.begun.getD [] ++ pattern), isBlankEnd := false }

def close (f : Fields) : Fields :=
  match f.begun with
  | some field => ⟨field :: f.complete, none, false⟩
  | none => f

def isBlank (c : Char) : Bool :=
  c == ' ' || c == '\t' || c == '\n'

def add (separators : List Char) (f : Fields) : Atom → Fields
  | .char c isQuoted => f.extend [(c, isQuoted)]
  | .quotes => f.extend []
  | .start => { f with isBlankEnd := false }
  | .cut => f.close
  | .loose c =>
    if !separators.contains c then f.extend [(c, false)]
    else if isBlank c then
      match f.begun with
      | some field => ⟨field :: f.complete, none, true⟩
      | none => f
    else if f.isBlankEnd then { f with isBlankEnd := false }
    else ⟨f.begun.getD [] :: f.complete, none, false⟩

/-- The fields that atoms make up. -/
def ofAtoms (separators : List Char) (atoms : List Atom) : List Pattern :=
  (atoms.foldl (add separators) {}).close.complete.reverse

end Fields

end BoardDebug.Build.Shell
