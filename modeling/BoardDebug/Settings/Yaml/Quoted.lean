import BoardDebug.Settings.Yaml.Cursor
import BoardDebug.Text.Number

namespace BoardDebug.Yaml

namespace Reading

/-- The code point with the next `count` hexadecimal digits. -/
def codePoint (count : Nat) : Reading Char := do
  let digits ← take count
  match Text.digits? 16 digits with
  | some code => if digits.length = count ∧ code.isValidChar then return .ofNat code else failure
  | none => failure

/-- The character that is spelled by a backslash and what follows here. -/
def escaped : Reading Char := do
  match ← any with
  | '0' => return '\x00'
  | 'a' => return '\x07'
  | 'b' => return '\x08'
  | 't' => return '\t'
  | '\t' => return '\t'
  | 'n' => return '\n'
  | 'v' => return '\x0b'
  | 'f' => return '\x0c'
  | 'r' => return '\r'
  | 'e' => return '\x1b'
  | ' ' => return ' '
  | '"' => return '"'
  | '/' => return '/'
  | '\\' => return '\\'
  | 'N' => return '\x85'
  | '_' => return '\xa0'
  | 'L' => return '\u2028'
  | 'P' => return '\u2029'
  | 'x' => codePoint 2
  | 'u' => codePoint 4
  | 'U' => codePoint 8
  | _ => failure

/-- The rest of a text in quotes. Two single quotes stand for one; a backslash in front of a line
end joins the lines. -/
def quotedRest (quote : Char) : Nat → Reading (List Char)
  | 0 => failure
  | fuel + 1 => do
    if ← atDocumentMark then failure
    else if endsWord (← ahead 0) then
      if (← ahead 0).isNone then failure
      else
        let between ← gap 0
        return between.folded ++ (← quotedRest quote fuel)
    else
      let c ← any
      if c = quote then
        if quote = '"' then return []
        else if ← eat quote then return c :: (← quotedRest quote fuel)
        else return []
      else if quote = '"' ∧ c = '\\' then
        if (← ahead 0).any isBreak then
          let _ ← newline
          let others ← lineEnds 0 fuel
          return others ++ (← quotedRest quote fuel)
        else
          let e ← escaped
          return e :: (← quotedRest quote fuel)
      else return c :: (← quotedRest quote fuel)

/-- A text that begins with a quote. -/
def quoted : Reading (List Char) := do
  let quote ← any
  quotedRest quote (← fuel)

end Reading

end BoardDebug.Yaml

namespace BoardDebug.Yaml

/-- Which line ends behind a long text belong to it. -/
inductive Chomping where
  | none
  | one
  | all
deriving DecidableEq

/-- What stands above a long text. -/
structure LongHeader where
  /-- Whether line ends stay; else lines are joined. -/
  isLiteral : Bool
  chomping : Chomping
  /-- How far the text is indented, if that is said. -/
  indent : Option Nat

namespace Reading

def chomping? : Reading (Option Chomping) := do
  if ← eat '+' then return some .all
  else if ← eat '-' then return some .none
  else return none

/-- A digit from one to nine. -/
def indent? : Reading (Option Nat) := do
  match (← ahead 0).bind (Text.digit? 10) with
  | none => return none
  | some 0 => failure
  | some n =>
    let _ ← any
    return some n

def longHeader : Reading LongHeader := do
  let isLiteral := (← any) == '|'
  let before ← chomping?
  let indent ← indent?
  let chomping ← if before.isNone ∧ indent.isSome then chomping? else pure before
  endLine
  return ⟨isLiteral, chomping.getD .one, indent⟩

/-- The line ends of empty lines, and the column of the farthest character on one. An indentation
that is known is not passed. -/
def emptyLines (known : Option Nat) : Nat → Reading (List Char × Nat)
  | 0 => return ([], 0)
  | fuel + 1 => do
    let spaces := ((← get).rest.takeWhile (· = ' ')).length
    let start ← column
    let _ ← take (known.elim spaces fun n => min spaces (n - start))
    let column ← column
    if (← ahead 0) = some '\t' ∧ known.all (column < ·) then failure
    else
      let ended ← newline
      if ended.isEmpty then return ([], column)
      else
        let (others, farthest) ← emptyLines known fuel
        return (ended ++ others, max column farthest)

/-- Lines of a long text that are read, and the line ends behind the last one. -/
structure LongLines where
  text : List Char
  lastEnd : List Char
  emptyEnds : List Char

/-- The lines that are indented by `indent` or more. Two lines are joined by a space if neither
begins with a blank. -/
def longLines (isLiteral : Bool) (indent : Nat) (before : LongLines) (wasBlank : Bool) :
    Nat → Reading LongLines
  | 0 => return before
  | fuel + 1 => do
    let next ← ahead 0
    if (← column) ≠ indent ∨ next.isNone then return before
    else
      let startsBlank := next.any isBlank
      let joins := !isLiteral && before.lastEnd == ['\n'] && !wasBlank && !startsBlank
      let between :=
        if joins then (if before.emptyEnds.isEmpty then [' '] else []) else before.lastEnd
      let line ← takeWhile (!isBreak ·)
      let lastEnd ← newline
      let (emptyEnds, _) ← emptyLines (some indent) fuel
      let text := before.text ++ between ++ before.emptyEnds ++ line
      longLines isLiteral indent ⟨text, lastEnd, emptyEnds⟩ startsBlank fuel

/-- A text over lines of its own, which stand right of the margin. -/
def long (margin : Nat) : Reading (List Char) := do
  let header ← longHeader
  let known := header.indent.map fun n => margin - 1 + n
  let (emptyEnds, farthest) ← emptyLines known (← fuel)
  let indent := known.getD (max (max farthest margin) 1)
  let lines ← longLines header.isLiteral indent ⟨[], [], emptyEnds⟩ false (← fuel)
  return match header.chomping with
    | .none => lines.text
    | .one => lines.text ++ lines.lastEnd
    | .all => lines.text ++ lines.lastEnd ++ lines.emptyEnds

end Reading

end BoardDebug.Yaml
