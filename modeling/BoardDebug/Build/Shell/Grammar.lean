import BoardDebug.Build.Shell.Token

namespace BoardDebug.Build.Shell.Reading

/-- Takes the lines of a text out of a script: those behind the current line, up to the one with
the given mark. -/
def takeText (mark : List Char) (dropTabs : Bool) : Reading (List Char) := do
  let source ← get
  let here := source.rest.takeWhile (· ≠ '\n')
  let behind := (source.rest.dropWhile (· ≠ '\n')).drop 1
  let (text, rest, isFound) := split behind (behind.length + 1)
  let lines := behind.count '\n' - rest.count '\n'
  set { source with rest := here ++ '\n' :: rest, missing := source.missing + lines }
  if isFound ∨ !(← isBash) then return text
  else
    let start := source.line + source.missing
    let isCut := behind.getLast?.any (· ≠ '\n')
    let stop := start + lines + (if isCut then 1 else 0)
    modify fun source => { source with unended := (stop, start, mark) :: source.unended }
    return if isCut then text ++ ['\n'] else text
where
  split (text : List Char) : Nat → List Char × List Char × Bool
    | 0 => ([], text, false)
    | fuel + 1 =>
      if text.isEmpty then ([], [], false)
      else
        let line := text.takeWhile (· ≠ '\n')
        let rest := text.drop (line.length + 1)
        let said := if dropTabs then line.dropWhile (· = '\t') else line
        if said = mark then ([], rest, true)
        else
          let (others, rest, isFound) := split rest fuel
          let isEnded := line.length < text.length
          (said ++ (if isEnded then ['\n'] else []) ++ others, rest, isFound)

/-- The characters of a word, whether quoted or not. -/
def spelling (word : Word) : List Char :=
  word.filterMap fun
    | .char c _ => some c
    | _ => none

def direction (sign : String) : Direction :=
  match sign with
  | "<&" => .same
  | ">&" => .same
  | ">>" => .append
  | ">|" => .replace
  | "<>" => .inputOutput
  | "<<<" => .line
  | "&>" => .outputAll
  | "&>>" => .appendAll
  | "<" => .input
  | _ => .output

/-- A redirection behind its sign. -/
def redirection (number : Option Nat) (sign : String) : Reading Redirection := do
  match ← next false false with
  | .word target =>
    let number := number.getD (if sign.startsWith "<" then 0 else 1)
    if sign = "<<" ∨ sign = "<<-" then
      let text ← takeText (spelling target) (sign = "<<-")
      if target.literal?.isSome then
        let source ← get
        let inner : Source := { rest := text, line := source.line }
        match (quotedRest .lines source.line (text.length + 1)).on (← read) inner with
        | .ok (word, _) => return ⟨number, .text, word⟩
        | .error fault => throw fault
      else return ⟨number, .text, text.map (.char · true)⟩
    else return ⟨number, direction sign, target⟩
  | token => unexpected token none

/-- The redirections behind a command. -/
def redirections : Nat → Reading (List Redirection)
  | 0 => return []
  | fuel + 1 => do
    match ← peek true false with
    | .redirection number sign =>
      let _ ← token true false
      let first ← redirection number sign
      return first :: (← redirections fuel)
    | _ => return []

def specialBuiltins : List String :=
  [".", ":", "break", "continue", "eval", "exec", "exit", "export", "readonly", "return", "set",
    "local", "shift", "times", "trap", "unset"]

/-- A command that is read with the help of a reader for the commands inside it. -/
structure Inner where
  /-- Commands up to a token that ends them; there may have to be one. -/
  list : (mayBeEmpty : Bool) → Reading Command
  command : Reading Command

def isFunctionName (name : List Char) : Reading Bool := do
  if ← isBash then return !name.isEmpty && !name.contains '$'
  else return isName name && !specialBuiltins.contains (String.ofList name)

/-- A simple command, or a function. Its line is the one on which its first part ends, or in one of
the languages its second. -/
def simple (inner : Inner) (line : Nat) : (assigned : List Assignment) →
    (words : List Word) → (given : List Redirection) → Nat → Reading Command
  | assigned, words, given, 0 => return .simple line assigned words given
  | assigned, words, given, fuel + 1 => do
    if words.isEmpty then settle true false maxAliases
    let isSecond := assigned.length + words.length + given.length = 1
    match ← peek false false with
    | .word word =>
      let _ ← token false false
      let dialect := (← read).setting.dialect
      let here := (← get).line
      let line := if isSecond ∧ dialect = .bash then here else line
      match if words.isEmpty then word.assignment? dialect else none with
      | some pair => simple inner line (assigned ++ [pair]) words given fuel
      | none => simple inner line assigned (words ++ [word]) given fuel
    | .redirection number sign =>
      let _ ← token false false
      let first ← redirection number sign
      simple inner line assigned words (given ++ [first]) fuel
    | .operator "(" =>
      match words, assigned.isEmpty && given.isEmpty with
      | [word], true =>
        let _ ← token false false
        let next ← next false false
        if !next.isOperator ")" then unexpected next (some (.operator ")"))
        else
          let name := spelling word
          if ← isFunctionName name then return .function name (← inner.command)
          else fail "Bad function name"
      | _, _ => return .simple line assigned words given
    | _ => return .simple line assigned words given

/-- The rest of a condition, behind its first word. -/
def branch (inner : Inner) : Nat → Reading Command
  | 0 => return .nothing
  | fuel + 1 => do
    let condition ← inner.list false
    expectReserved "then"
    let yes ← inner.list false
    let next ← next true true
    if next.isReserved "elif" then return .branch condition yes (← branch inner fuel)
    else if next.isReserved "else" then
      let no ← inner.list false
      expectReserved "fi"
      return .branch condition yes no
    else if next.isReserved "fi" then return .branch condition yes .nothing
    else unexpected next (some (.reserved "fi"))

/-- The words that a loop goes through, up to the end of the line. -/
def eachWords : Nat → Reading (List Word)
  | 0 => return []
  | fuel + 1 => do
    match ← next false false with
    | .word word => return word :: (← eachWords fuel)
    | .newline => return []
    | .operator ";" => return []
    | token => unexpected token none

/-- The commands that a loop repeats. -/
def body (inner : Inner) : Reading Command := do
  let first ← peek true true
  if (← isBash) ∧ first.isReserved "\x7b" then
    let _ ← token true true
    let body ← inner.list false
    expectReserved "\x7d"
    return body
  else
    expectReserved "do"
    let body ← inner.list false
    expectReserved "done"
    return body

/-- The text up to a sign that stands outside of all brackets, and what follows the sign. -/
def splitAt (sign : Char) : (depth : Nat) → List Char → Option (List Char × List Char)
  | _, [] => none
  | depth, c :: rest =>
    if c = sign ∧ depth = 0 then some ([], rest)
    else
      let deeper := if c = '(' then depth + 1 else if c = ')' then depth - 1 else depth
      (splitAt sign deeper rest).map fun (text, rest) => (c :: text, rest)

/-- The expression in double brackets that comes next, if any. -/
def takeSum? : Reading (Option (List Char)) := do
  let rest := (← get).rest
  if rest.take 2 ≠ ['(', '('] then return none
  else
    match enclosed [')'] (rest.drop 2) with
    | .ok (inner, ')' :: _) =>
      let _ ← take (inner.length + 4)
      return some inner
    | .ok _ => return none
    | .error missing => unclosed missing (← get).line ""

def each (inner : Inner) (line : Nat) : Reading Command := do
  skipBlanks false (← fuel)
  let counted ← if ← isBash then takeSum? else pure none
  match counted with
  | some text =>
    if (← peek true true).isOperator ";" then
      let _ ← token true true
    let (start, rest) := (splitAt ';' 0 text).getD (text, [])
    let (condition, step) := (splitAt ';' 0 rest).getD (rest, [])
    return .count line start condition step (← body inner)
  | none =>
    let name ← match ← token false false with
      | .word word => pure (word.literal?.getD [])
      | _ => pure []
    if !isName name then fail "Bad for loop variable"
    else
      let next ← peek true true
      let words ←
        if next.isReserved "in" then do
          let _ ← token true true
          pure (some (← eachWords (← fuel)))
        else do
          if next.isOperator ";" then
            let _ ← token true true
          pure none
      return .each line name words (← body inner)

/-- The patterns of a case, up to the closing bracket. -/
def patterns : Nat → Reading (List Word)
  | 0 => return []
  | fuel + 1 => do
    let first ← token false false
    let next ← token false false
    let word := match first with
      | .word word => word
      | _ => []
    if next.isOperator "|" then return word :: (← patterns fuel)
    else if next.isOperator ")" then return [word]
    else unexpected next (some (.operator ")"))

def cases (inner : Inner) : Nat → Reading (List (List Word × Command × Onward))
  | 0 => return []
  | fuel + 1 => do
    let first ← peek true true
    if first.isReserved "esac" then
      let _ ← token true true
      return []
    else
      skipBlanks true fuel
      if first.isOperator "(" then
        let _ ← token false true
      let words ← patterns fuel
      let body ← inner.list true
      let next ← next true true
      match caseEnds.find? fun (sign, _) => next.isOperator sign with
      | some (_, onward) => return (words, body, onward) :: (← cases inner fuel)
      | none =>
        if next.isReserved "esac" then return [(words, body, .leave)]
        else unexpected next (some (.operator ";;"))

def choice (inner : Inner) (line : Nat) : Reading Command := do
  match ← token false false with
  | .word word =>
    expectReserved "in"
    return .choice line word (← cases inner (← fuel))
  | token => unexpected token (some (.word []))

def loop (inner : Inner) (goesOn : Bool) : Reading Command := do
  let condition ← inner.list false
  return .loop goesOn condition (← body inner)

/-- A function behind the word that says so. -/
def namedFunction (inner : Inner) : Reading Command := do
  match ← token false false with
  | .word word =>
    if (← peek false false).isOperator "(" then
      let _ ← token false false
      let next ← token false false
      if !next.isOperator ")" then unexpected next none
    return .function (spelling word) (← inner.command)
  | token => unexpected token none

/-- The signs of conditions with one operand. -/
def unaryClauses : List String :=
  ["-a", "-b", "-c", "-d", "-e", "-f", "-g", "-h", "-k", "-p", "-r", "-s", "-t", "-u", "-w", "-x",
    "-G", "-L", "-N", "-O", "-S", "-v", "-z", "-n", "-o", "-R"]

def binaryClauses : List String :=
  ["==", "=~", "!=", "=", "-eq", "-ne", "-lt", "-le", "-gt", "-ge", "-nt", "-ot", "-ef"]

/-- A word in which brackets may stand that belong together, with all that is between them. -/
def bracketWord (ends : Char → Bool) : (depth : Nat) → Nat → Reading Word
  | _, 0 => return []
  | depth, fuel + 1 => do
    let isEnd (c : Char) : Bool := c == '(' || c == ')' || (depth == 0 && ends c)
    let start ← wordRest isEnd fuel
    match (← get).rest.head? with
    | some '(' =>
      let _ ← take 1
      return start ++ .char '(' false :: (← bracketWord ends (depth + 1) fuel)
    | some ')' =>
      if depth = 0 then return start
      else
        let _ ← take 1
        return start ++ .char ')' false :: (← bracketWord ends (depth - 1) fuel)
    | _ => return start

/-- What kind of a word of a condition in brackets comes next. -/
inductive ClauseWord where
  | plain
  | pattern
  | regex
deriving DecidableEq

/-- A word of a condition in brackets. -/
def clauseWord (kind : ClauseWord) : Reading Word := do
  skipBlanks true (← fuel)
  let isBlank (c : Char) : Bool := [' ', '\t', '\n'].contains c
  let word ← match kind with
    | .plain => wordRest endsWord (← fuel)
    | .pattern => bracketWord (fun c => isBlank c || "|&;<>".contains c) 0 (← fuel)
    | .regex => bracketWord isBlank 0 (← fuel)
  if word.isEmpty then unexpected (.operator (String.ofList (← take 1))) none else return word

/-- A condition in brackets, by how tightly its signs bind: 0 for those that join conditions which
need not all hold, 1 for those that join conditions which do, and 2 for a single one. -/
def clause : Nat → (level : Nat) → Reading Clause
  | 0, _ => return .word []
  | fuel + 1, 0 => do
    let first ← clause fuel 1
    skipBlanks true fuel
    if ← eat ['|', '|'] then return .either first (← clause fuel 0) else return first
  | fuel + 1, 1 => do
    let first ← clause fuel 2
    skipBlanks true fuel
    if ← eat ['&', '&'] then return .both first (← clause fuel 1) else return first
  | fuel + 1, _ => do
    skipBlanks true fuel
    let rest := (← get).rest
    if rest.head? = some '!' ∧ rest[1]?.any (fun c => c.isWhitespace || c == '(') then
      let _ ← take 1
      return .not (← clause fuel 2)
    else if ← eat ['('] then
      let inner ← clause fuel 0
      skipBlanks true fuel
      if ← eat [')'] then return inner else unexpected (.operator (String.ofList (← take 1))) none
    else
      let first ← clauseWord .plain
      skipBlanks true fuel
      let source ← get
      let spelled := first.literal?.map String.ofList
      if spelled.any unaryClauses.contains ∧ !isOver source.rest then
        return .unary (spelled.getD "") (← clauseWord .plain)
      else if ← eat ['<'] then return .binary first "<" (← clauseWord .plain)
      else if ← eat ['>'] then return .binary first ">" (← clauseWord .plain)
      else
        let sign ← wordRest endsWord fuel
        let sign := (sign.literal?.map String.ofList).getD ""
        if binaryClauses.contains sign then
          let kind : ClauseWord := if sign = "=~" then .regex
            else if ["==", "!=", "="].contains sign then .pattern
            else .plain
          return .binary first sign (← clauseWord kind)
        else
          set source
          return .word first
where
  isOver (rest : List Char) : Bool :=
    rest.take 2 = [']', ']'] || rest.take 2 = ['&', '&'] || rest.take 2 = ['|', '|'] ||
      rest.head? = some ')'

/-- A condition behind two square brackets, with those that close it. -/
def bracketed (line : Nat) : Reading Command := do
  let clause ← clause (2 * (← fuel)) 0
  skipBlanks true (← fuel)
  if ← eat [']', ']'] then return .clause line clause
  else
    throw ⟨(← get).line, "syntax error in conditional expression", true⟩

/-- A command, with the redirections behind it. -/
def commandAround (inner : Inner) (newlines : Bool) : Reading Command := do
  settle true newlines maxAliases
  let source ← get
  let first ← token true newlines
  let line := (← get).line
  set source
  skipBlanks newlines (← fuel)
  let sum ← if ← isBash then takeSum? else pure none
  match sum with
  | some text => behind line (return .sum line text)
  | none =>
    match first with
    | .reserved "if" => compound line (branch inner (← fuel))
    | .reserved "while" => compound line (loop inner true)
    | .reserved "until" => compound line (loop inner false)
    | .reserved "for" => compound line (each inner line)
    | .reserved "case" => compound line (choice inner line)
    | .reserved "function" => compound line (namedFunction inner)
    | .reserved "[[" => compound line (bracketed line)
    | .reserved "\x7b" => compound line do
        let body ← inner.list false
        expectReserved "\x7d"
        return body
    | .operator "(" => compound line do
        let body ← inner.list false
        let next ← next true true
        if next.isOperator ")" then return .apart body else unexpected next (some (.operator ")"))
    | .word _ => simple inner line [] [] [] (← fuel)
    | .redirection _ _ => simple inner line [] [] [] (← fuel)
    | token =>
      if ← isBash then
        let _ ← Reading.token true newlines
      unexpected token none
where
  behind (line : Nat) (body : Reading Command) : Reading Command := do
    let body ← body
    let given ← redirections (← fuel)
    return if given.isEmpty then body else .redirected line body given
  compound (line : Nat) (body : Reading Command) : Reading Command := do
    let _ ← token true false
    behind line body

/-- Commands between bars. -/
def pipe (inner : Inner) (newlines : Bool) : Nat → Reading Command
  | 0 => return .nothing
  | fuel + 1 => do
    let first ← commandAround inner newlines
    let next ← peek true false
    if next.isOperator "|" then
      let _ ← token true false
      return .pipe first (← pipe inner true fuel)
    else if next.isOperator "|&" then
      let _ ← token true false
      let all : Redirection := ⟨2, .same, [.char '1' false]⟩
      return .pipe (.redirected (← get).line first [all]) (← pipe inner true fuel)
    else return first

/-- Commands between bars, perhaps with a sign in front that turns success into failure. -/
def pipeline (inner : Inner) (newlines : Bool) : Reading Command := do
  if (← peek true newlines).isReserved "!" then
    let _ ← token true newlines
    return .not (← pipe inner false (← fuel))
  else pipe inner newlines (← fuel)

def andOr (inner : Inner) (newlines : Bool) : Reading Command := do
  more (← fuel) (← pipeline inner newlines)
where
  more : Nat → Command → Reading Command
    | 0, first => return first
    | fuel + 1, first => do
      let next ← peek true false
      if next.isOperator "&&" then
        let _ ← token true false
        more fuel (.join first .onSuccess (← pipeline inner true))
      else if next.isOperator "||" then
        let _ ← token true false
        more fuel (.join first .onFailure (← pipeline inner true))
      else return first

/-- Commands inside another one, up to a token that ends them. -/
def innerList (inner : Inner) : (before : Command) → (mayEnd : Bool) → Nat → Reading Command
  | before, _, 0 => return before
  | before, mayEnd, fuel + 1 => do
    let first ← peek true true
    match first with
    | .endOfFile => return before
    | _ =>
      if mayEnd ∧ first.endsList then return before
      else
        let command ← andOr inner true
        let next ← peek true false
        match next with
        | .newline => innerList inner (before.follow command) true fuel
        | .operator ";" =>
          let _ ← token true false
          innerList inner (before.follow command) true fuel
        | .operator "&" =>
          let _ ← token true false
          innerList inner (before.follow (.beside command)) true fuel
        | _ => return before.follow command

/-- Passes over commands and what has to be behind them. -/
def passOver (inner : Inner) : Passing := fun setting inBrackets source =>
  let whole : Reading Unit := do
    let _ ← inner.list true
    if inBrackets then
      let next ← next true true
      if !next.isOperator ")" then unexpected next (some (.operator ")"))
  (whole.on ⟨setting, fun _ _ source => .ok source⟩ source).map (·.2)

/-- A reader for commands that are nested to a depth. -/
def inner : Nat → Inner
  | 0 => ⟨fun _ => return .nothing, return .nothing⟩
  | depth + 1 =>
    let deeper {α : Type} (act : Reading α) : Reading α :=
      withReader (fun rules => { rules with passing := passOver (inner depth) }) act
    { list := fun mayBeEmpty => deeper do innerList (inner depth) .nothing mayBeEmpty (← fuel)
      command := deeper (commandAround (inner depth) true) }

/-- How deep commands may be nested. -/
def maxDepth : Nat := 200

def rules (setting : Setting) : Rules :=
  ⟨setting, passOver (inner maxDepth)⟩

/-- The commands on a line, and on the lines that it goes on. -/
def line : Reading Command := do
  go .nothing (← fuel)
where
  go (before : Command) : Nat → Reading Command
    | 0 => return before
    | fuel + 1 => do
      match ← peek true false with
      | .endOfFile => return before
      | .newline =>
        let _ ← token true false
        return before
      | _ =>
        let command ← andOr (inner maxDepth) false
        let next ← next true false
        match next with
        | .endOfFile => return before.follow command
        | .newline => return before.follow command
        | .operator ";" => go (before.follow command) fuel
        | .operator "&" => go (before.follow (.beside command)) fuel
        | next => unexpected next none

end BoardDebug.Build.Shell.Reading
