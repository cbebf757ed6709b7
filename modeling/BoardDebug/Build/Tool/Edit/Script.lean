import BoardDebug.Build.Regex.Reading
import BoardDebug.Build.Tool.Edit.Command

namespace BoardDebug.Build.Tool.Edit

/-- Why a script cannot be read. -/
inductive Fault where
  | unknownCommand (c : Char)
  | unterminatedSubstitution
  | unterminatedTranslation
  | unterminatedAddress
  | unexpectedComma
  | countAddress
  | lineZero
  | unmatchedOpen
  | unexpectedClose
  | extraCharacters
  | expectedText
  | addressOfClose
  | addressOfLabel
  | addressOfComment
  | missingCommand
  | missingLabel
  | missingFile
  | oneAddress
  | manyTurns
  | unknownOption
  | manyPrints
  | manyGlobals
  | manyNumbers
  | zeroNumber
  | unequalLengths
  | noReference (number : Nat)
  | modifiedEmpty
  | newerVersion
  | regex (fault : Regex.Fault)

def Fault.message : Fault → String
  | unknownCommand c => "unknown command: \x60" ++ String.singleton c ++ "'"
  | unterminatedSubstitution => "unterminated \x60s' command"
  | unterminatedTranslation => "unterminated \x60y' command"
  | unterminatedAddress => "unterminated address regex"
  | unexpectedComma => "unexpected \x60,'"
  | countAddress => "invalid usage of +N or ~N as first address"
  | lineZero => "invalid usage of line address 0"
  | unmatchedOpen => "unmatched \x60\x7b'"
  | unexpectedClose => "unexpected \x60\x7d'"
  | extraCharacters => "extra characters after command"
  | expectedText => "expected \\ after \x60a', \x60c' or \x60i'"
  | addressOfClose => "\x7d doesn't want any addresses"
  | addressOfLabel => ": doesn't want any addresses"
  | addressOfComment => "comments don't accept any addresses"
  | missingCommand => "missing command"
  | missingLabel => "\":\" lacks a label"
  | missingFile => "missing filename in r/R/w/W commands"
  | oneAddress => "command only uses one address"
  | manyTurns => "multiple \x60!'s"
  | unknownOption => "unknown option to \x60s'"
  | manyPrints => "multiple \x60p' options to \x60s' command"
  | manyGlobals => "multiple \x60g' options to \x60s' command"
  | manyNumbers => "multiple number options to \x60s' command"
  | zeroNumber => "number option to \x60s' command may not be zero"
  | unequalLengths => "strings for \x60y' command are different lengths"
  | noReference number => "invalid reference \\" ++ toString number ++ " on \x60s' command's RHS"
  | modifiedEmpty => "cannot specify modifiers on empty regexp"
  | newerVersion => "expected newer version of sed"
  | regex fault => fault.message

/-- What is left of a script, and how much of it was read. -/
structure Reader where
  rest : List Char
  count : Nat := 0
  isExtended : Bool
  /-- Where the blocks begin that are open, the innermost first. -/
  blocks : List Nat := []

/-- A fault, and how much of the script had been read. -/
abbrev Reading := StateT Reader (Except (Fault × Nat))

namespace Reading

def refuse {α : Type} (fault : Fault) : Reading α := do
  throw (fault, (← get).count)

def peek : Reading (Option Char) := do
  return (← get).rest.head?

/-- Takes the next character, if there is one. -/
def next : Reading (Option Char) := do
  let r ← get
  match r.rest with
  | c :: rest =>
    set { r with rest, count := r.count + 1 }
    return some c
  | [] => return none

def drop (count : Nat) : Reading Unit :=
  modify fun r => { r with rest := r.rest.drop count, count := r.count + count }

/-- Takes the characters in front of which something holds. -/
def takeWhile (holds : Char → Bool) : Reading (List Char) := do
  let taken := (← get).rest.takeWhile holds
  drop taken.length
  return taken

def isBlank (c : Char) : Bool :=
  c == ' ' || '\t' ≤ c && c ≤ '\r' && c != '\n'

def skipBlanks : Reading Unit := do
  let _ ← takeWhile isBlank

/-- Takes a number, if one comes next. -/
def number? : Reading (Option Nat) := do
  return Text.digits? 10 (← takeWhile Char.isDigit)

/-- The rest of a class in a set of characters, up to its end. -/
def classRest (sign : Char) : List Char → Option (List Char × List Char)
  | [] => none
  | [_] => none
  | c :: d :: rest =>
    if c = '\n' then none
    else if c = sign ∧ d = ']' then some ([c, d], rest)
    else (classRest sign (d :: rest)).map fun (taken, rest) => (c :: taken, rest)

/-- The rest of a set of characters, up to the bracket that closes it. -/
def setRest : Nat → List Char → Option (List Char × List Char)
  | 0, _ => none
  | _, [] => none
  | fuel + 1, c :: rest =>
    let more (taken rest : List Char) : Option (List Char × List Char) :=
      (setRest fuel rest).map fun (others, rest) => (taken ++ others, rest)
    match c, rest with
    | ']', rest => some ([']'], rest)
    | '\n', _ => none
    | '\\', 'n' :: rest => more ['\n'] rest
    | '[', sign :: inner =>
      if sign = ':' ∨ sign = '.' ∨ sign = '=' then
        match classRest sign inner with
        | some (taken, rest) => more ('[' :: sign :: taken) rest
        | none => none
      else more ['['] (sign :: inner)
    | c, rest => more [c] rest

/-- A set of characters behind its opening bracket, and what follows. -/
def set? (text : List Char) : Option (List Char × List Char) :=
  let (turn, inner) := match text with
    | '^' :: rest => (['^'], rest)
    | rest => ([], rest)
  let (first, inner) := match inner with
    | ']' :: rest => ([']'], rest)
    | rest => ([], rest)
  (setRest (inner.length + 1) inner).map fun (taken, rest) => (turn ++ first ++ taken, rest)

/-- The text up to a closing sign, without backslashes in front of such signs. In a description
`n` behind a backslash is the end of a line, and signs in a set of characters close nothing. -/
def upTo (isRegex : Bool) (close : Char) : Nat → Reading (Option (List Char))
  | 0 => return none
  | fuel + 1 => do
    match ← peek with
    | none => return none
    | some '\n' => return none
    | some c =>
      drop 1
      if c = close then return some []
      else if c = '[' ∧ isRegex then
        let rest := (← get).rest
        match set? rest with
        | some (taken, behind) =>
          drop (rest.length - behind.length)
          return (← upTo isRegex close fuel).map ('[' :: taken ++ ·)
        | none =>
          let _ ← takeWhile (· != '\n')
          return none
      else if c ≠ '\\' then return (← upTo isRegex close fuel).map (c :: ·)
      else
        match ← next with
        | none => return none
        | some d =>
          let taken :=
            if d = close ∧ (isRegex ∨ d ≠ '&') then [d]
            else if d = 'n' ∧ isRegex then ['\n']
            else if d = '\n' then [d]
            else ['\\', d]
          return (← upTo isRegex close fuel).map (taken ++ ·)

/-- The character that a letter behind a backslash stands for, and what follows. -/
def control? (c : Char) (rest : List Char) : Option (Char × List Char) :=
  let digits (base most : Nat) : Option (Char × List Char) :=
    let taken := (rest.take most).takeWhile fun d => (Text.digit? base d).isSome
    (Text.digits? base taken).map fun n => (.ofNat (n % 256), rest.drop taken.length)
  match c, rest with
  | 'a', _ => some ('\x07', rest)
  | 'f', _ => some ('\x0c', rest)
  | 'n', _ => some ('\n', rest)
  | 'r', _ => some ('\r', rest)
  | 't', _ => some ('\t', rest)
  | 'v', _ => some ('\x0b', rest)
  | 'c', d :: rest =>
    let code := d.toUpper.toNat
    some (.ofNat (if code / 64 % 2 = 1 then code - 64 else code + 64), rest)
  | 'd', _ => digits 10 3
  | 'o', _ => digits 8 3
  | 'x', _ => digits 16 2
  | _, _ => none

/-- A description with the characters that letters behind backslashes stand for. -/
def withControls : Nat → List Char → List Char
  | 0, text => text
  | fuel + 1, '\\' :: c :: rest =>
    match control? c rest with
    | some (d, rest) => d :: withControls fuel rest
    | none => '\\' :: c :: withControls fuel rest
  | fuel + 1, c :: rest => c :: withControls fuel rest
  | _, [] => []

/-- What a description looks for, and the number of its groups. -/
def sought (text : List Char) (view : Regex.View) : Reading (Sought × Nat) := do
  if text.isEmpty then
    if view.ignoresCase ∨ view.hasLines then refuse .modifiedEmpty
    return (none, 9)
  else
    let spelling : Regex.Spelling := if (← get).isExtended then .strict else .basic
    match Regex.read spelling (withControls text.length text) with
    | .ok (regex, groups) => return (some (regex, view), groups)
    | .error fault => refuse (.regex fault)

/-- The letters behind a description that say how it is meant. -/
def viewLetters : Nat → Regex.View → Reading Regex.View
  | 0, view => return view
  | fuel + 1, view => do
    skipBlanks
    match ← peek with
    | some 'I' =>
      drop 1
      viewLetters fuel { view with ignoresCase := true }
    | some 'M' =>
      drop 1
      viewLetters fuel { view with hasLines := true }
    | _ => return view

/-- A description as an address, behind the sign that opens it. -/
def addressText (close : Char) : Reading Sought := do
  let fuel := (← get).rest.length + 1
  match ← upTo true close fuel with
  | none => refuse .unterminatedAddress
  | some text =>
    let view ← viewLetters 8 {}
    return (← sought text view).1

/-- A line that is named, if one is. -/
def point? : Reading (Option Point) := do
  match ← peek with
  | some '/' =>
    drop 1
    return some (.text (← addressText '/'))
  | some '\\' =>
    drop 1
    match ← next with
    | some close => return some (.text (← addressText close))
    | none => refuse .unterminatedAddress
  | some '$' =>
    drop 1
    return some .last
  | some c =>
    if c.isDigit then
      let first := (← number?).getD 0
      skipBlanks
      if (← peek) = some '~' then
        drop 1
        skipBlanks
        return some (.step first ((← number?).getD 0))
      else return some (.line first)
    else return none
  | none => return none

/-- The end of a range, behind a comma. -/
def limit : Reading Limit := do
  skipBlanks
  let count (make : Nat → Limit) : Reading Limit := do
    drop 1
    skipBlanks
    match ← number? with
    | some n => return make n
    | none => return make 0
  match ← peek with
  | some '+' => count .further
  | some '~' => count .multiple
  | _ =>
    match ← point? with
    | some (.line n) => return .line n
    | some (.step n _) => return .line n
    | some .last => return .last
    | some (.text sought) => return .text sought
    | none => do
      let _ ← next
      refuse .unexpectedComma

/-- The lines that are named in front of a command, if any are. -/
def address? : Reading (Option Address) := do
  let isCount := ((← peek).any fun c => c == '+' || c == '~')
  if isCount then
    drop 1
    let _ ← number?
    refuse .countAddress
  match ← point? with
  | none => return none
  | some first =>
    skipBlanks
    let limit? ← do
      if (← peek) = some ',' then
        drop 1
        let found ← limit
        pure (some found)
      else pure none
    skipBlanks
    let isZero := first matches .line 0
    let endsByText := limit? matches some (.text _)
    if isZero ∧ !endsByText then
      let _ ← next
      refuse .lineZero
    return some ⟨first, limit?⟩

/-- What may come behind a command. -/
def finish : Reading Unit := do
  skipBlanks
  match ← peek with
  | none => return ()
  | some '#' => return ()
  | some '\x7d' => return ()
  | some c =>
    drop 1
    if c ≠ '\n' ∧ c ≠ ';' then refuse .extraCharacters

/-- The text that is put around lines: up to the end of the line, without backslashes. -/
def textLines : Nat → Reading (List Char)
  | 0 => return []
  | fuel + 1 => do
    match ← next with
    | none => return ['\n']
    | some '\n' => return ['\n']
    | some '\\' =>
      let rest := (← get).rest
      match rest with
      | [] => return ['\n']
      | c :: more =>
        match control? c more with
        | some (d, behind) =>
          drop (rest.length - behind.length)
          return d :: (← textLines fuel)
        | none =>
          drop 1
          return c :: (← textLines fuel)
    | some c => return c :: (← textLines fuel)

/-- The text of a command that puts it around lines. -/
def text : Reading (List Char) := do
  skipBlanks
  let fuel := (← get).rest.length + 1
  match (← get).rest with
  | [] => refuse .expectedText
  | '\n' :: _ => refuse .expectedText
  | ['\\'] =>
    drop 1
    return []
  | '\\' :: '\n' :: _ =>
    drop 2
    textLines fuel
  | '\\' :: rest =>
    let blanks := rest.takeWhile isBlank
    if (rest.drop blanks.length).head? = some '\n' then drop (blanks.length + 2) else drop 1
    textLines fuel
  | _ => textLines fuel

/-- The name of a label. -/
def labelName : Reading String := do
  skipBlanks
  return String.ofList (← takeWhile fun c => !isBlank c && c != '\n' && c != ';' && c != '\x7d')

/-- The name of a file, which takes the rest of the line. -/
def fileName : Reading String := do
  skipBlanks
  let name ← takeWhile (· != '\n')
  if name.isEmpty then refuse .missingFile
  return String.ofList name

/-- The pieces of a text that is put in place of another. -/
def pieces : Nat → List Char → List Piece
  | 0, _ => []
  | _, [] => []
  | fuel + 1, '&' :: rest => .part 0 :: pieces fuel rest
  | fuel + 1, '\\' :: c :: rest =>
    match c, Text.digit? 10 c, control? c rest with
    | 'U', _, _ => .casing .upper :: pieces fuel rest
    | 'L', _, _ => .casing .lower :: pieces fuel rest
    | 'E', _, _ => .casing .plain :: pieces fuel rest
    | 'u', _, _ => .casing .upperFirst :: pieces fuel rest
    | 'l', _, _ => .casing .lowerFirst :: pieces fuel rest
    | _, some n, _ => .part n :: pieces fuel rest
    | _, none, some (d, rest) => .char d :: pieces fuel rest
    | _, none, none => .char c :: pieces fuel rest
  | fuel + 1, c :: rest => .char c :: pieces fuel rest

/-- What the letters behind a substitution say. -/
structure Letters where
  number : Option Nat := none
  isGlobal : Bool := false
  prints : Bool := false
  view : Regex.View := {}
  file : Option String := none

def letters : Nat → Letters → Reading Letters
  | 0, found => return found
  | fuel + 1, found => do
    match ← peek with
    | none => return found
    | some '#' => return found
    | some '\x7d' => return found
    | some c =>
      if c.isDigit then
        let number := (← number?).getD 0
        if found.number.isSome then refuse .manyNumbers
        if number = 0 then refuse .zeroNumber
        letters fuel { found with number := some number }
      else
        drop 1
        match c with
        | '\n' => return found
        | ';' => return found
        | ' ' => letters fuel found
        | 'e' => letters fuel found
        | 'g' =>
          if found.isGlobal then refuse .manyGlobals
          letters fuel { found with isGlobal := true }
        | 'p' =>
          if found.prints then refuse .manyPrints
          letters fuel { found with prints := true }
        | 'w' => return { found with file := some (← fileName) }
        | _ =>
          if c = 'i' ∨ c = 'I' then letters fuel { found with view.ignoresCase := true }
          else if c = 'm' ∨ c = 'M' then letters fuel { found with view.hasLines := true }
          else refuse .unknownOption

/-- The highest number of a part that pieces ask for. -/
def highest (pieces : List Piece) : Nat :=
  (pieces.map fun
    | .part n => n
    | _ => 0).foldl max 0

def substitution : Reading Action := do
  let fuel := (← get).rest.length + 1
  match ← next with
  | none => refuse .unterminatedSubstitution
  | some close =>
    match ← upTo true close fuel with
    | none => refuse .unterminatedSubstitution
    | some pattern =>
      match ← upTo false close fuel with
      | none => refuse .unterminatedSubstitution
      | some text =>
        let found ← letters fuel {}
        let (sought, groups) ← sought pattern found.view
        let pieces := pieces text.length text
        if groups < highest pieces then refuse (.noReference (highest pieces))
        return .substitute ⟨sought, pieces, found.number.getD 1, found.isGlobal, found.prints,
          found.file⟩

/-- The characters that a side of a translation names. -/
def side : List Char → List Char
  | '\\' :: '\\' :: rest => '\\' :: side rest
  | '\\' :: 'n' :: rest => '\n' :: side rest
  | c :: rest => c :: side rest
  | [] => []

def translation : Reading Action := do
  let fuel := (← get).rest.length + 1
  match ← next with
  | none => refuse .unterminatedTranslation
  | some close =>
    match ← upTo false close fuel with
    | none => refuse .unterminatedTranslation
    | some first =>
      match ← upTo false close fuel with
      | none => refuse .unterminatedTranslation
      | some second =>
        let sides (text : List Char) : List Char := side (controlsOf text.length text)
        let (first, second) := (sides first, sides second)
        if first.length ≠ second.length then refuse .unequalLengths
        finish
        return .translate (first.zip second)
where
  /-- The same with all control characters but the ends of lines. -/
  controlsOf : Nat → List Char → List Char
    | 0, text => text
    | fuel + 1, '\\' :: c :: rest =>
      match c == 'n' || c == '\\', control? c rest with
      | false, some (d, rest) => d :: controlsOf fuel rest
      | _, _ => '\\' :: c :: controlsOf fuel rest
    | fuel + 1, c :: rest => c :: controlsOf fuel rest
    | _, [] => []

def finished (action : Action) : Reading Action := do
  finish
  return action

/-- A command that may come with a number. -/
def withNumber (make : Option Nat → Action) : Reading Action := do
  skipBlanks
  let number ← number?
  finished (make number)

/-- Whether a version is one that there is. -/
def isKnown (version : String) : Bool :=
  let numbers := (version.splitOn ".").map fun text => (text.toNat?).getD 0
  match numbers with
  | major :: minor :: _ => major < 4 || major == 4 && minor ≤ 9
  | [major] => major ≤ 4
  | [] => true

/-- What the letter of a command says. -/
def action (address : Option Address) (c : Char) : Reading Action := do
  let hasLimit := address.any (·.limit.isSome)
  match c with
  | '\x7b' =>
    modify fun r => { r with blocks := r.count :: r.blocks }
    return .open
  | '\x7d' =>
    if (← get).blocks.isEmpty then refuse .unexpectedClose
    if address.isSome then refuse .addressOfClose
    modify fun r => { r with blocks := r.blocks.tail }
    finished .close
  | ':' =>
    if address.isSome then refuse .addressOfLabel
    let name ← labelName
    if name = "" then refuse .missingLabel
    return .label name
  | 'a' => return .append (← text)
  | 'i' => return .insert (← text)
  | 'c' => return .change (← text)
  | 'b' =>
    let name ← labelName
    finished (.branch name)
  | 't' =>
    let name ← labelName
    finished (.branchIf name)
  | 'T' =>
    let name ← labelName
    finished (.branchUnless name)
  | 'd' => finished .delete
  | 'D' => finished .deleteLine
  | 'h' => finished .hold
  | 'H' => finished .holdMore
  | 'g' => finished .take
  | 'G' => finished .takeMore
  | 'x' => finished .exchange
  | 'l' => withNumber .list
  | 'n' => finished .next
  | 'N' => finished .nextMore
  | '=' => finished .number
  | 'F' => finished .name
  | 'p' => finished .print
  | 'P' => finished .printLine
  | 'q' =>
    if hasLimit then refuse .oneAddress
    withNumber fun number => .quit (number.getD 0) true
  | 'Q' =>
    if hasLimit then refuse .oneAddress
    withNumber fun number => .quit (number.getD 0) false
  | 'r' => return .readFile (← fileName)
  | 'R' => return .readLine (← fileName)
  | 'w' => return .writeFile (← fileName)
  | 'W' => return .writeLine (← fileName)
  | 's' => substitution
  | 'y' => translation
  | 'z' => finished .clear
  | 'v' =>
    let version ← labelName
    if !isKnown version then refuse .newerVersion
    finished .nothing
  | _ => refuse (.unknownCommand c)

/-- The commands of a script. -/
def commands : Nat → Reading (List Command)
  | 0 => return []
  | fuel + 1 => do
    let _ ← takeWhile fun c => isBlank c || c == '\n' || c == ';'
    if (← peek).isNone then return []
    let address ← address?
    skipBlanks
    let isTurned := (← peek) = some '!'
    if isTurned then
      drop 1
      skipBlanks
      if (← peek) = some '!' then
        drop 1
        refuse .manyTurns
    match ← peek with
    | none => refuse .missingCommand
    | some '\n' => refuse .missingCommand
    | some '#' =>
      drop 1
      if address.isSome then refuse .addressOfComment
      let _ ← takeWhile (· != '\n')
      commands fuel
    | some c =>
      drop 1
      let action ← action address c
      return ⟨address, isTurned, action⟩ :: (← commands fuel)

end Reading

/-- A part of a script: a text that was given, or a file. -/
structure Fragment where
  /-- The name of the file. -/
  file : Option String
  text : List Char

/-- Where in a script a number of characters ends. -/
def place (count : Nat) (isOpen : Bool) : Nat → List Fragment → String
  | _, [] => ""
  | number, fragment :: rest =>
    let number := if fragment.file.isNone then number + 1 else number
    if fragment.text.length < count ∧ !rest.isEmpty then
      place (count - fragment.text.length - 1) isOpen number rest
    else
      match fragment.file with
      | none => "-e expression #" ++ toString number ++ ", char " ++
          toString (if isOpen then 0 else count) ++ ": "
      | some name => "file " ++ name ++ " line " ++
          toString (((fragment.text.take (count - 1)).filter (· = '\n')).length + 1) ++ ": "

/-- The commands that a script spells, or a complaint. -/
def commandsOf? (isExtended : Bool) (fragments : List Fragment) :
    Except String (Array Command) :=
  let text := ['\n'].intercalate (fragments.map (·.text))
  match (Reading.commands (text.length + 1)).run { rest := text, isExtended } with
  | .error (fault, count) => .error (place count false 0 fragments ++ fault.message)
  | .ok (commands, reader) =>
    match reader.blocks with
    | [] => .ok commands.toArray
    | count :: _ => .error (place count true 0 fragments ++ Fault.unmatchedOpen.message)

end BoardDebug.Build.Tool.Edit
