namespace BoardDebug.Yaml

def isBlank (c : Char) : Bool :=
  c == ' ' || c == '\t'

/-- Whether a character ends a line. -/
def isBreak (c : Char) : Bool :=
  c == '\n' || c == '\r' || c == '\x85' || c == '\u2028' || c == '\u2029'

/-- Whether a word ends in front of what comes next. -/
def endsWord (next : Option Char) : Bool :=
  next.all fun c => isBlank c || isBreak c

/-- Whether a line ends in front of what comes next. -/
def endsLine (next : Option Char) : Bool :=
  next.all isBreak

/-- Where the reading of a text stands: what is left of it, and where that begins. -/
structure Cursor where
  rest : List Char
  index : Nat
  line : Nat
  column : Nat

def Cursor.start (text : List Char) : Cursor :=
  ⟨text, 0, 0, 0⟩

/-- Reads something at a cursor and moves it on, or refuses. -/
abbrev Reading := StateT Cursor Option

namespace Reading

/-- More steps than a reading can take that moves on in each. -/
def fuel : Reading Nat := do
  return (← get).rest.length + 1

/-- The character that comes after `n` others. -/
def ahead (n : Nat) : Reading (Option Char) := do
  return (← get).rest[n]?

def column : Reading Nat := do
  return (← get).column

/-- Takes as many characters, none of which ends a line. -/
def take (count : Nat) : Reading (List Char) := do
  let cursor ← get
  let taken := cursor.rest.take count
  set { cursor with
    rest := cursor.rest.drop count
    index := cursor.index + taken.length
    column := cursor.column + taken.length }
  return taken

def takeWhile (accepts : Char → Bool) : Reading (List Char) := do
  take ((← get).rest.takeWhile accepts).length

def skipWhile (accepts : Char → Bool) : Reading Unit := do
  let _ ← takeWhile accepts

/-- Takes any character. -/
def any : Reading Char := do
  match ← take 1 with
  | c :: _ => return c
  | [] => failure

/-- Takes the next character if it is `c`. -/
def eat (c : Char) : Reading Bool := do
  if (← ahead 0) = some c then
    let _ ← take 1
    return true
  else return false

def expect (c : Char) : Reading Unit := do
  if ← eat c then return () else failure

/-- Takes the end of a line, if it comes next. It counts as one character. -/
def newline : Reading (List Char) := do
  match (← get).rest with
  | [] => return []
  | c :: rest =>
    if c = '\r' ∧ rest.head? = some '\n' then pass 2 ['\n']
    else if c = '\u2028' ∨ c = '\u2029' then pass 1 [c]
    else if isBreak c then pass 1 ['\n']
    else return []
where
  pass (count : Nat) (spelled : List Char) : Reading (List Char) := do
    let _ ← take count
    modify fun cursor => { cursor with line := cursor.line + 1, column := 0 }
    return spelled

/-- Passes over a comment, if it comes next. -/
def skipComment : Reading Unit := do
  if (← ahead 0) = some '#' then skipWhile (!isBreak ·)

/-- Passes over the rest of a line on which nothing but a comment is left. -/
def endLine : Reading Unit := do
  skipWhile isBlank
  skipComment
  if endsLine (← ahead 0) then
    let _ ← newline
  else failure

/-- Whether a line begins here that starts or ends a document. -/
def atDocumentMark : Reading Bool := do
  let cursor ← get
  let mark := cursor.rest.take 3
  return cursor.column == 0 && (mark == ['-', '-', '-'] || mark == ['.', '.', '.']) &&
    endsWord cursor.rest[3]?

end Reading

/-- What lies between two words of a text. -/
inductive Gap where
  | blanks (spelled : List Char)
  /-- The first end of a line, and the others. Blanks beside them do not count. -/
  | lines (first others : List Char)

namespace Gap

def isBroken : Gap → Bool
  | blanks _ => false
  | lines _ _ => true

/-- A single line end becomes a space; of more, the first is dropped. -/
def folded : Gap → List Char
  | blanks spelled => spelled
  | lines first others =>
    if first = ['\n'] then (if others.isEmpty then [' '] else others) else first ++ others

end Gap

namespace Reading

/-- The line ends from here to the next word. A tab may not stand left of the margin. -/
def lineEnds (margin : Nat) : Nat → Reading (List Char)
  | 0 => return []
  | fuel + 1 => do
    let column ← column
    let blanks ← takeWhile isBlank
    if (blanks.take (margin - column)).contains '\t' then failure
    else
      let ended ← newline
      if ended.isEmpty then return [] else return ended ++ (← lineEnds margin fuel)

/-- What lies between here and the next word. -/
def gap (margin : Nat) : Reading Gap := do
  let blanks ← takeWhile isBlank
  let first ← newline
  if first.isEmpty then return .blanks blanks
  else return .lines first (← lineEnds margin (← fuel))

end Reading

/-- Brackets, braces and commas, which end a text between brackets. -/
def isFlowMark (c : Char) : Bool :=
  c == ',' || c == '[' || c == ']' || c == '\x7b' || c == '\x7d'

namespace Reading

/-- A word of a text without quotes. A colon ends it in front of a blank. -/
def plainWord (inFlow : Bool) : Nat → Reading (List Char)
  | 0 => return []
  | fuel + 1 => do
    let next ← ahead 1
    match ← ahead 0 with
    | none => return []
    | some c =>
      if isBlank c ∨ isBreak c then return []
      else if inFlow ∧ c = ':' ∧ next.any (fun d => isFlowMark d || d == '?') then failure
      else if (c = ':' ∧ endsWord next) ∨ (inFlow ∧ isFlowMark c) then return []
      else
        let _ ← any
        return c :: (← plainWord inFlow fuel)

/-- The rest of a text without quotes behind a gap, and whether a line ended behind it. Outside
brackets the text has to stay right of the margin. -/
def plainRest (inFlow : Bool) (margin : Nat) : Nat → Gap → Reading (List Char × Bool)
  | 0, before => return ([], before.isBroken)
  | fuel + 1, before => do
    if (← atDocumentMark) ∨ (← ahead 0) = some '#' then return ([], before.isBroken)
    else
      let word ← plainWord inFlow fuel
      let text := if word.isEmpty then [] else before.folded ++ word
      let wasBroken := word.isEmpty && before.isBroken
      let next ← ahead 0
      if next.isNone ∨ !endsWord next then return (text, wasBroken)
      else
        let after ← gap margin
        if !inFlow ∧ (← column) < margin then return (text, after.isBroken)
        else
          let (others, isBroken) ← plainRest inFlow margin fuel after
          return (text ++ others, isBroken)

/-- A text without quotes, and whether a line ended behind it. -/
def plain (inFlow : Bool) (margin : Nat) : Reading (List Char × Bool) := do
  plainRest inFlow margin ((← fuel) + 1) (.blanks [])

end Reading

end BoardDebug.Yaml
