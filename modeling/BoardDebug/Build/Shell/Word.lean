import BoardDebug.Build.Escapes

namespace BoardDebug.Build.Shell

/-- The language of a shell. -/
inductive Dialect where
  | sh
  | bash
deriving DecidableEq

/-- What is left of a script, and the line on which it begins. -/
structure Source where
  rest : List Char
  line : Nat
  /-- How many lines behind the current one have been taken out. -/
  missing : Nat := 0
  /-- The short names whose texts are being read, and how much is left behind these texts. -/
  begun : List (String × Nat) := []
  /-- Whether the lines are ones that a shell shows as it reads them, if that is asked for. -/
  isShown : Bool := false
  /-- What the script is called in complaints about how it is written. -/
  label : String := ""
  /-- The texts whose marks have not been found, the latest first: the lines on which the script
  ends and the text begins, and the mark. -/
  unended : List (Nat × Nat × List Char) := []

/-- A script as a whole. -/
def Source.of (text : List Char) : Source := { rest := text, line := 1 }

/-- A part of a word of a script. Quotes keep what a part says from being split. -/
inductive Piece where
  | char (c : Char) (isQuoted : Bool)
  /-- A pair of quotes stands here, so that the word is not left out. -/
  | quotes
  /-- What a parameter stands for, and what is to be done with it. -/
  | parameter (name change : List Char) (isQuoted : Bool)
  /-- How long it is what a parameter stands for. -/
  | length (name : List Char)
  /-- What the commands of a script write. -/
  | output (script : Source) (isQuoted : Bool)
  /-- The value of an expression. -/
  | sum (expression : List Char)
  /-- A list of words in brackets that a name is to stand for. -/
  | items (text : List Char)
  /-- A file that the commands of a script write, or read. -/
  | channel (script : Source) (isRead : Bool)

abbrev Word := List Piece

/-- Why a script cannot be read. -/
structure Fault where
  line : Nat
  text : String
  /-- Whether the line is shown too. -/
  isShown : Bool := false

/-- What is known of a script before it is read: its language, and short names for beginnings of
commands. -/
structure Setting where
  dialect : Dialect := .sh
  aliases : List (String × String) := []

/-- Passes over the commands in a word: up to a closing bracket and over it, or up to the end. -/
abbrev Passing := (setting : Setting) → (inBrackets : Bool) → Source → Except Fault Source

structure Rules where
  setting : Setting
  passing : Passing

/-- Reads something off the front of a script, or refuses. It is told how to pass over commands. -/
abbrev Reading := ReaderT Rules (StateT Source (Except Fault))

namespace Reading

def on {α : Type} (act : Reading α) (rules : Rules) (source : Source) :
    Except Fault (α × Source) :=
  (act.run rules).run source

def isBash : Reading Bool := do
  return (← read).setting.dialect == .bash

def fail {α : Type} (text : String) : Reading α := do
  let line := (← get).line
  if ← isBash then throw ⟨line, "syntax error: " ++ text, false⟩
  else throw ⟨line, "Syntax error: " ++ text, false⟩

/-- Refuses a script that ends before a sign that closes something. -/
def unclosed {α : Type} (close : Char) (line : Nat) (text : String) : Reading α := do
  if ← isBash then
    throw ⟨line, "unexpected EOF while looking for matching \x60" ++ String.singleton close ++ "'",
      false⟩
  else fail text

def fuel : Reading Nat := do
  return (← get).rest.length + 9

def ahead (n : Nat) : Reading (Option Char) := do
  return (← get).rest[n]?

/-- Takes characters. -/
def take (count : Nat) : Reading (List Char) := do
  let source ← get
  let taken := source.rest.take count
  let rest := source.rest.drop count
  let lines := taken.count '\n'
  if lines = 0 then set { source with rest }
  else set { source with rest, line := source.line + lines + source.missing, missing := 0 }
  return taken

def takeWhile (accepts : Char → Bool) : Reading (List Char) := do
  take ((← get).rest.takeWhile accepts).length

def eat (word : List Char) : Reading Bool := do
  if word.isPrefixOf (← get).rest then
    let _ ← take word.length
    return true
  else return false

end Reading

def isNameStart (c : Char) : Bool :=
  c.isAlpha || c == '_'

def isNameChar (c : Char) : Bool :=
  c.isAlphanum || c == '_'

def isName (word : List Char) : Bool :=
  word.head?.any isNameStart && word.all isNameChar

/-- Parameters with a name of one sign. -/
def isSpecial (c : Char) : Bool :=
  ['@', '*', '#', '?', '-', '$', '!'].contains c

/-- The text up to what closes the brackets and quotes that are open, the innermost first. If
there is no end, the result is what would have closed the innermost. -/
def enclosed : (opened : List Char) → List Char → Except Char (List Char × List Char)
  | [], rest => .ok ([], rest)
  | close :: _, [] => .error close
  | close :: outer, c :: rest =>
    let goOn (opened : List Char) :=
      (enclosed opened rest).map fun (inner, rest) => (c :: inner, rest)
    let both (d : Char) (rest : Except Char (List Char × List Char)) :=
      rest.map fun (inner, rest) => (c :: d :: inner, rest)
    if c = close then (if outer.isEmpty then .ok ([], rest) else goOn outer)
    else if close = '\x27' then goOn (close :: outer)
    else
      match c, rest with
      | '\\', d :: rest => both d (enclosed (close :: outer) rest)
      | '$', '\x7b' :: rest => both '\x7b' (enclosed ('\x7d' :: close :: outer) rest)
      | '$', '(' :: rest => both '(' (enclosed (')' :: close :: outer) rest)
      | '(', _ => goOn (if close = ')' then ')' :: close :: outer else close :: outer)
      | '"', _ => goOn ('"' :: close :: outer)
      | '\x60', _ => goOn ('\x60' :: close :: outer)
      | '\x27', _ => goOn (if close = '"' then close :: outer else '\x27' :: close :: outer)
      | _, _ => goOn (close :: outer)

namespace Reading

/-- Takes the text up to a closing bracket or quote, and that too. -/
def takeEnclosed (close : Char) : Reading (List Char) := do
  match enclosed [close] (← get).rest with
  | .ok (inner, _) =>
    let _ ← take (inner.length + 1)
    return inner
  | .error missing =>
    unclosed missing (← get).line <|
      if missing = ')' then "Missing '))'"
      else if missing = '\x7d' then "Missing '\x7d'"
      else if missing = '\x60' then "EOF in backquote substitution"
      else "Unterminated quoted string"

/-- The name of a parameter, which may be empty. -/
def parameterName : Reading (List Char) := do
  match ← ahead 0 with
  | none => return []
  | some c =>
    if isSpecial c then take 1
    else if isNameStart c then takeWhile isNameChar
    else takeWhile Char.isDigit

/-- The script up to a closing bracket. -/
def takeScript : Reading Source := do
  let source ← get
  let rules ← read
  match rules.passing rules.setting true source with
  | .ok after =>
    set after
    let count := source.rest.length - after.rest.length
    return { rest := source.rest.take (count - 1), line := source.line }
  | .error fault =>
    if fault.text = "syntax error: unexpected end of file" then unclosed ')' fault.line ""
    else throw fault

/-- What follows a dollar sign. -/
def dollar (isQuoted : Bool) : Reading Piece := do
  if ← eat ['(', '('] then
    let source ← get
    let inner ← takeEnclosed ')'
    if ← eat [')'] then return .sum inner
    else if ← isBash then
      set { source with rest := '(' :: source.rest }
      return .output (← takeScript) isQuoted
    else fail "Missing '))'"
  else if ← eat ['('] then return .output (← takeScript) isQuoted
  else if ← eat ['\x7b'] then
    let inner ← takeEnclosed '\x7d'
    match inner with
    | '#' :: c :: name =>
      if isNameChar c || isSpecial c then return .length (c :: name)
      else return .parameter ['#'] (c :: name) isQuoted
    | _ =>
      match parameterName.on (← read) (.of inner) with
      | .ok (name, change) => return .parameter name change.rest isQuoted
      | .error fault => throw fault
  else
    match ← ahead 0 with
    | some c =>
      if c.isDigit then return .parameter (← take 1) [] isQuoted
      else if isSpecial c || isNameStart c then return .parameter (← parameterName) [] isQuoted
      else return .char '$' isQuoted
    | none => return .char '$' isQuoted

/-- What follows a backquote: a script in which some signs have a backslash in front. -/
def backquoted (isQuoted : Bool) : Reading Piece := do
  let line := (← get).line
  let inner ← takeEnclosed '\x60'
  let isBash ← isBash
  let script : Source := { rest := bare inner, line := if isBash then line else 1 }
  let rules ← read
  match rules.passing rules.setting false script with
  | .ok _ => return .output script isQuoted
  | .error fault => if isBash then return .output script isQuoted else throw fault
where
  bare : List Char → List Char
    | '\\' :: c :: rest =>
      if c = '$' ∨ c = '\x60' ∨ c = '\\' ∨ (isQuoted ∧ c = '"') then c :: bare rest
      else '\\' :: c :: bare rest
    | c :: rest => c :: bare rest
    | [] => []

/-- What double quotes are around, and what ends it. -/
inductive Around where
  /-- A part of a word, up to the closing quote. -/
  | quotes
  /-- A text as a whole, in which quotes stand for themselves. -/
  | lines
  /-- A text as a whole, in which quotes do not count. -/
  | word
deriving DecidableEq

/-- The rest of a text in double quotes. -/
def quotedRest (around : Around) (line : Nat) : Nat → Reading Word
  | 0 => return []
  | fuel + 1 => do
    match ← take 1 with
    | c :: _ =>
      if c = '"' ∧ around = .quotes then return []
      else if c = '"' ∧ around = .word then quotedRest around line fuel
      else if c = '$' then
        let piece ← dollar true
        return piece :: (← quotedRest around line fuel)
      else if c = '\x60' then
        let piece ← backquoted true
        return piece :: (← quotedRest around line fuel)
      else if c = '\\' then
        match ← ahead 0 with
        | some d =>
          if d = '\n' then
            let _ ← take 1
            quotedRest around line fuel
          else if d = '$' ∨ d = '\x60' ∨ d = '\\' ∨ (d = '"' ∧ around ≠ .lines) then
            let _ ← take 1
            return .char d true :: (← quotedRest around line fuel)
          else return .char c true :: (← quotedRest around line fuel)
        | none => if around = .quotes then unfinished else return [.char c true]
      else return .char c true :: (← quotedRest around line fuel)
    | [] => if around = .quotes then unfinished else return []
where
  unfinished : Reading Word :=
    unclosed '"' line "Unterminated quoted string"

/-- Whether a part stands for all arguments. -/
def isAllArguments : Piece → Bool
  | .parameter ['@'] change _ => goesOn change
  | .parameter _ ('[' :: '@' :: ']' :: change) _ => goesOn change
  | _ => false
where
  goesOn : List Char → Bool
    | [] => true
    | ':' :: c :: _ => !(['-', '+', '=', '?'].contains c)
    | c :: _ => ['#', '%', '/', '^', ','].contains c

/-- A text in single quotes, behind the first of them. -/
def singleQuoted : Reading Word := do
  let line := (← get).line
  let text ← takeWhile (· ≠ '\x27')
  if ← eat ['\x27'] then return .quotes :: text.map (.char · true)
  else if ← isBash then unclosed '\x27' line ""
  else throw ⟨line + text.count '\n', "Syntax error: Unterminated quoted string", false⟩

/-- A text in single quotes with escapes, behind the first of them. -/
def escapedRest (line : Nat) : Nat → Reading (List Char)
  | 0 => return []
  | fuel + 1 => do
    match ← take 1 with
    | ['\x27'] => return []
    | ['\\'] =>
      let text := (← get).rest
      let (chars, rest) := escape text
      let _ ← take (text.length - rest.length)
      return chars ++ (← escapedRest line fuel)
    | [c] => return c :: (← escapedRest line fuel)
    | _ => unclosed '\x27' line ""
where
  escape (text : List Char) : List Char × List Char :=
    match text with
    | '\x27' :: rest => (['\x27'], rest)
    | '"' :: rest => (['"'], rest)
    | '?' :: rest => (['?'], rest)
    | 'E' :: rest => (['\x1b'], rest)
    | 'c' :: c :: rest => ([.ofNat (c.toNat % 32)], rest)
    | c :: rest =>
      if (Escapes.octalDigit? c).isSome then
        let (byte, rest) := Escapes.octal text
        ([byte], rest)
      else
        match Escapes.hex? c rest, Escapes.control? c with
        | some found, _ => found
        | none, some c => ([c], rest)
        | none, none => (['\\', c], rest)
    | [] => (['\\'], [])

/-- The rest of a word, up to a character that cannot be in it. -/
def wordRest (ends : Char → Bool) : Nat → Reading Word
  | 0 => return []
  | fuel + 1 => do
    match ← ahead 0 with
    | none => return []
    | some c =>
      if ends c then return []
      else
        let _ ← take 1
        let pieces ← piecesAfter c fuel
        return pieces ++ (← wordRest ends fuel)
where
  piecesAfter (c : Char) (fuel : Nat) : Reading Word := do
    if c = '\\' then
      match ← take 1 with
      | d :: _ => return if d = '\n' then [] else [.char d true]
      | [] => return [.char c true]
    else if c = '\x27' then singleQuoted
    else if c = '"' then
      let inner ← quotedRest .quotes (← get).line fuel
      return if !inner.isEmpty && inner.all isAllArguments then inner else .quotes :: inner
    else if c = '$' then
      let next ← ahead 0
      if (← isBash) ∧ next = some '\x27' then
        let _ ← take 1
        return .quotes :: (← escapedRest (← get).line fuel).map (.char · true)
      else if (← isBash) ∧ next = some '"' then return []
      else return [← dollar false]
    else if c = '\x60' then return [← backquoted false]
    else return [.char c false]

/-- The word in a text as a whole. -/
def wholeWord (isQuoted : Bool) : Reading Word := do
  if isQuoted then quotedRest .word (← get).line (← fuel) else wordRest (fun _ => false) (← fuel)

end Reading

/-- A word that is spelled without quotes and parameters. -/
def Word.literal? (word : Word) : Option (List Char) :=
  word.mapM fun
    | .char c false => some c
    | _ => none

/-- What a name is to stand for. -/
structure Assignment where
  name : List Char
  /-- The number or key of an item. -/
  item : Option Word := none
  /-- Whether it is put behind what the name stands for. -/
  appends : Bool := false
  value : Word

namespace Word

/-- The parts up to a closing square bracket, and those behind it. -/
def bracketed? (depth : Nat) : Word → Option (Word × Word)
  | [] => none
  | .char ']' false :: rest =>
    if depth = 0 then some ([], rest)
    else (bracketed? (depth - 1) rest).map fun (inner, rest) => (.char ']' false :: inner, rest)
  | piece :: rest =>
    let deeper := match piece with
      | .char '[' false => depth + 1
      | _ => depth
    (bracketed? deeper rest).map fun (inner, rest) => (piece :: inner, rest)

/-- The value behind an equals sign, which may have a plus in front. -/
def valueBehind? (name : List Char) (item : Option Word) : Word → Option Assignment
  | .char '=' false :: rest => some ⟨name, item, false, rest⟩
  | .char '+' false :: .char '=' false :: rest => some ⟨name, item, true, rest⟩
  | _ => none

/-- The name and the value of an assignment. -/
def assignment? (dialect : Dialect) : Word → Option Assignment
  | .char c false :: rest => if isNameStart c then go [c] rest else none
  | _ => none
where
  go (name : List Char) : Word → Option Assignment
    | .char c false :: rest =>
      if c = '=' then some ⟨name, none, false, rest⟩
      else if isNameChar c then go (name ++ [c]) rest
      else if dialect = .sh then none
      else if c = '[' then (bracketed? 0 rest).bind fun (item, rest) => valueBehind? name item rest
      else valueBehind? name none (.char c false :: rest)
    | _ => none

end Word

end BoardDebug.Build.Shell
