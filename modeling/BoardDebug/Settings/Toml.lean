import BoardDebug.Settings.Toml.Table
import BoardDebug.Settings.Toml.Word

namespace BoardDebug.Toml

open Text (Scan)

/-- Skips a comment, if one starts here. -/
def skipComment : Scan Unit := do
  if ← Scan.eat '#' then Scan.skipWhile (!Text.isControl ·)

/-- Skips spaces, comments and line ends. -/
def skipLines : Nat → Scan Unit
  | 0 => return ()
  | fuel + 1 => do
    skipSpaces
    skipComment
    if ← eatNewline then skipLines fuel

/-- The items of an array up to its closing bracket. -/
def arrayRest (item : Scan Json.Value) : Nat → Scan (List Json.Value)
  | 0 => failure
  | fuel + 1 => do
    skipLines fuel
    if ← Scan.eat ']' then return []
    else
      let first ← item
      skipLines fuel
      if ← Scan.eat ',' then return first :: (← arrayRest item fuel)
      else
        Scan.expect ']'
        return [first]

/-- The pairs of an inline table up to its closing brace. -/
def inlineRest (item : Scan Json.Value) : Nat → Table → Scan Table
  | 0, _ => failure
  | fuel + 1, table => do
    let path ← key
    Scan.expect '='
    skipSpaces
    let value ← item
    skipSpaces
    match table.put path value with
    | none => failure
    | some table =>
      if ← Scan.eat ',' then inlineRest item fuel table
      else
        Scan.expect '\x7d'
        return table

/-- A value in which no more than `depth` brackets and braces are open at a time. -/
def value : (depth : Nat) → Scan Json.Value
  | 0 => simple
  | depth + 1 => do
    let fuel := (← get).length + 1
    if ← Scan.eat '[' then return .list (← arrayRest (value depth) fuel)
    else if ← Scan.eat '\x7b' then
      skipSpaces
      if ← Scan.eat '\x7d' then return .object []
      else return .object (← inlineRest (value depth) fuel (.empty .header)).toMembers
    else simple
where
  simple : Scan Json.Value := do
    if ← Scan.eat '"' then return .text (← stringAfter '"')
    else if ← Scan.eat '\x27' then return .text (← stringAfter '\x27')
    else moment <|> word

/-- How many brackets and braces may be open at a time. -/
def maxDepth : Nat := 79

/-- A line that says something. -/
inductive Line where
  | header (path : List String)
  | nextHeader (path : List String)
  | pair (path : List String) (value : Json.Value)

def line : Scan Line := do
  if ← Scan.eatWord ['[', '['] then
    let path ← key
    if ← Scan.eatWord [']', ']'] then return .nextHeader path else failure
  else if ← Scan.eat '[' then
    let path ← key
    Scan.expect ']'
    return .header path
  else
    let path ← key
    Scan.expect '='
    skipSpaces
    return .pair path (← value maxDepth)

/-- The lines of a document. -/
def document : Nat → Scan (List Line)
  | 0 => failure
  | fuel + 1 => do
    skipLines fuel
    if (← get).isEmpty then return []
    else
      let first ← line
      skipSpaces
      skipComment
      if ← eatNewline then return first :: (← document fuel)
      else if (← get).isEmpty then return [first]
      else failure

/-- A document being put together: its table, and the header that counts. -/
structure Draft where
  table : Table
  header : List String

def Draft.add (d : Draft) : Line → Option Draft
  | .header path => (d.table.openHeader path).map (⟨·, path⟩)
  | .nextHeader path => (d.table.openNext path).map (⟨·, path⟩)
  | .pair path value => (d.table.changeAt .passed (·.put path value) d.header).map (⟨·, d.header⟩)

/-- The table that a document describes. A mark of the byte order in front of it does not count. -/
def parse (text : List Char) : Option (List (String × Json.Value)) := do
  let text := if text.head? = some '\ufeff' then text.tail else text
  let lines ← Scan.whole (document (text.length + 1)) text
  let draft ← lines.foldlM Draft.add ⟨.empty .header, []⟩
  return draft.table.toMembers

end BoardDebug.Toml
