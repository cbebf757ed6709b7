import BoardDebug.Build.Shell.Word

namespace BoardDebug.Build.Shell

/-- How a command is given a file or another stream. -/
inductive Direction where
  | input
  | output
  /-- A new file in place of any other. -/
  | replace
  | append
  /-- A file that is read and written. -/
  | inputOutput
  /-- The number of a stream, or a dash to have none. -/
  | same
  /-- A file for complaints too. -/
  | outputAll
  | appendAll
  /-- The text itself. -/
  | text
  /-- A line with the text. -/
  | line
deriving DecidableEq

structure Redirection where
  number : Nat
  direction : Direction
  target : Word

/-- Whether a command runs after another, seen from how that one ends. -/
inductive Joint where
  | always
  | onSuccess
  | onFailure
deriving DecidableEq

/-- A condition between double square brackets. -/
inductive Clause where
  | word (w : Word)
  | unary (sign : String) (operand : Word)
  | binary (left : Word) (sign : String) (right : Word)
  | not (clause : Clause)
  | both (first second : Clause)
  | either (first second : Clause)

/-- What comes after the commands of a case. -/
inductive Onward where
  | leave
  /-- The commands of the next case. -/
  | fall
  /-- The patterns of the next cases. -/
  | test
deriving DecidableEq

inductive Command where
  | nothing
  | simple (line : Nat) (assigned : List Assignment) (words : List Word)
    (redirections : List Redirection)
  | redirected (line : Nat) (body : Command) (redirections : List Redirection)
  | join (first : Command) (joint : Joint) (second : Command)
  | pipe (first second : Command)
  | not (body : Command)
  | beside (body : Command)
  | apart (body : Command)
  | branch (condition yes no : Command)
  | loop (goesOn : Bool) (condition body : Command)
  | each (line : Nat) (name : List Char) (words : Option (List Word)) (body : Command)
  | choice (line : Nat) (word : Word) (cases : List (List Word × Command × Onward))
  | function (name : List Char) (body : Command)
  | clause (line : Nat) (clause : Clause)
  | sum (line : Nat) (expression : List Char)
  | count (line : Nat) (start condition step : List Char) (body : Command)

/-- Puts a command behind others. -/
def Command.follow (before next : Command) : Command :=
  match before with
  | .nothing => next
  | before => .join before .always next

end BoardDebug.Build.Shell

namespace BoardDebug.Build.Shell

inductive Token where
  | endOfFile
  | newline
  | operator (spelled : String)
  | redirection (number : Option Nat) (spelled : String)
  /-- A word that has a meaning of its own in front of a command. -/
  | reserved (spelled : String)
  | word (w : Word)

def reservedWords (dialect : Dialect) : List String :=
  let usual := ["!", "case", "do", "done", "elif", "else", "esac", "fi", "for", "if", "in", "then",
    "until", "while", "\x7b", "\x7d"]
  if dialect = .bash then "function" :: "time" :: "[[" :: usual else usual

/-- The name of a token in a complaint. -/
def Token.name : Token → String
  | endOfFile => "end of file"
  | newline => "newline"
  | operator spelled => "\"" ++ spelled ++ "\""
  | redirection _ _ => "redirection"
  | reserved spelled => "\"" ++ spelled ++ "\""
  | word _ => "word"

/-- How a token is spelled. -/
def Token.spelling : Token → String
  | operator spelled => spelled
  | redirection _ spelled => spelled
  | reserved spelled => spelled
  | word w => String.ofList ((w.literal?).getD [])
  | token => token.name

def Token.isOperator (token : Token) (spelled : String) : Bool :=
  match token with
  | operator s => s == spelled
  | _ => false

def Token.isReserved (token : Token) (spelled : String) : Bool :=
  match token with
  | reserved s => s == spelled
  | _ => false

/-- The signs that end the commands of a case, with what comes then. -/
def caseEnds : List (String × Onward) :=
  [(";;&", .test), (";;", .leave), (";&", .fall)]

/-- Whether a token ends the commands inside another. -/
def Token.endsList : Token → Bool
  | endOfFile => true
  | operator spelled => ")" == spelled || caseEnds.any fun (sign, _) => sign == spelled
  | reserved spelled =>
    ["do", "done", "elif", "else", "esac", "fi", "then", "\x7d"].contains spelled
  | _ => false

namespace Reading

def unexpected {α : Type} (token : Token) (expected : Option Token) : Reading α := do
  if ← isBash then
    let line := (← get).line
    match token with
    | .endOfFile => throw ⟨line + 1, "syntax error: unexpected end of file", false⟩
    | token =>
      let line := if token matches .newline then line - 1 else line
      throw ⟨line, "syntax error near unexpected token \x60" ++ token.spelling ++ "'", true⟩
  else
    match expected with
    | some other => fail (token.name ++ " unexpected (expecting " ++ other.name ++ ")")
    | none => fail (token.name ++ " unexpected")

/-- Passes over blanks, joined lines and comments, and over line ends if they do not count. -/
def skipBlanks (newlines : Bool) : Nat → Reading Unit
  | 0 => return ()
  | fuel + 1 => do
    match ← ahead 0 with
    | some '#' =>
      let _ ← takeWhile (· ≠ '\n')
      skipBlanks newlines fuel
    | some c =>
      if c = ' ' ∨ c = '\t' ∨ (newlines ∧ c = '\n') then
        let _ ← take 1
        skipBlanks newlines fuel
      else if c = '\\' ∧ (← get).rest[1]? = some '\n' then
        let _ ← take 2
        skipBlanks newlines fuel
    | none => return ()

def endsWord (c : Char) : Bool :=
  [' ', '\t', '\n', ';', '&', '|', '<', '>', '(', ')'].contains c

def operators : Dialect → List String
  | .sh => ["&&", "||", ";;", ";", "&", "|", "(", ")"]
  | .bash => ["&&", "||", ";;&", ";;", ";&", ";", "&", "|&", "|", "(", ")"]

def redirectionSigns : Dialect → List String
  | .sh => ["<<-", "<<", "<&", "<>", "<", ">>", ">&", ">|", ">"]
  | .bash => ["<<<", "<<-", "<<", "<&", "<>", "<", ">>", ">&", ">|", ">"]

/-- Takes the first of some signs that comes next. -/
def eatOne : List String → Reading (Option String)
  | [] => return none
  | sign :: rest => do
    if ← eat sign.toList then return some sign else eatOne rest

/-- The text that a short name stands for, unless that is being read already. `start` is how much
there is from the name on. -/
def alias? (name : String) (start : Nat) : Reading (Option String) := do
  let isBegun := (← get).begun.any fun (n, left) => n == name && left < start
  let found := (← read).setting.aliases.find? fun (n, _) => n = name
  return if isBegun then none else found.map (·.2)

/-- Puts the text of a short name in place of that. -/
def expandAlias (name text : String) (behind : List Char) : Reading Unit :=
  modify fun source =>
    { source with
      rest := text.toList ++ behind
      begun := (name, behind.length) :: source.begun }

/-- Whether the text of a short name has just been left whose last character is a blank. -/
def leavesAlias (before after : Nat) : Reading Bool := do
  let aliases := (← read).setting.aliases
  return (← get).begun.any fun (name, left) =>
    left < before && after ≤ left && aliases.any fun (n, text) =>
      n == name && (text.endsWith " " || text.endsWith "\t")

/-- The words of a list in brackets. -/
def items : Nat → Reading (List Word)
  | 0 => return []
  | fuel + 1 => do
    skipBlanks true fuel
    if ← eat [')'] then return []
    else
      match ← ahead 0 with
      | none => unclosed ')' (← get).line ""
      | some _ =>
        let word ← wordRest endsWord fuel
        if word.isEmpty then
          let sign ← take 1
          let token := String.ofList sign
          throw ⟨(← get).line, "syntax error near unexpected token \x60" ++ token ++ "'", true⟩
        else return word :: (← items fuel)

/-- Takes a list in brackets, behind the first of them. -/
def takeItems : Reading Piece := do
  let text := (← get).rest
  let _ ← items (← fuel)
  let count := text.length - (← get).rest.length
  return .items (text.take (count - 1))

/-- Whether a word gives a name a value that begins with the next character. -/
def opensItems (word : Word) : Bool :=
  match word.assignment? .bash with
  | some assignment => assignment.value.isEmpty
  | none => false

/-- The next token. Reserved words count only in front of a command. -/
def token (isCommand newlines : Bool) : Reading Token := do
  skipBlanks newlines (← fuel)
  let dialect := (← read).setting.dialect
  match ← ahead 0 with
  | none => return .endOfFile
  | some '\n' =>
    let _ ← take 1
    return .newline
  | some _ =>
    let source ← get
    let digits := source.rest.takeWhile Char.isDigit
    let next := source.rest[digits.length]?
    let isChannel := dialect == .bash && (next == some '<' || next == some '>') &&
      source.rest[digits.length + 1]? == some '('
    if isChannel then channel next
    else if next = some '<' ∨ next = some '>' then
      let _ ← take digits.length
      match ← eatOne (redirectionSigns dialect) with
      | some sign => return .redirection (Text.digits? 10 digits) sign
      | none => return .endOfFile
    else if dialect = .bash ∧ source.rest.take 2 = ['&', '>'] then
      match ← eatOne ["&>>", "&>"] with
      | some sign => return .redirection none sign
      | none => return .endOfFile
    else
      match ← eatOne (operators dialect) with
      | some sign => return .operator sign
      | none =>
        let word ← wordRest endsWord (← fuel)
        let isReserved := isCommand && word.literal?.any fun spelled =>
          (reservedWords dialect).contains (String.ofList spelled)
        if isReserved then return .reserved (String.ofList (word.literal?.getD []))
        else if dialect = .bash ∧ opensItems word ∧ (← ahead 0) = some '(' then
          let _ ← take 1
          return .word (word ++ [← takeItems])
        else return .word word
where
  channel (sign : Option Char) : Reading Token := do
    let _ ← take 2
    return .word [.channel (← takeScript) (sign == some '<')]

/-- Puts the texts of short names in their places, as long as the next token is one. -/
def settle (isCommand newlines : Bool) : Nat → Reading Unit
  | 0 => return ()
  | fuel + 1 => do
    let source ← get
    if (← read).setting.aliases.isEmpty then return ()
    else
      skipBlanks newlines (← Reading.fuel)
      let start := (← get).rest.length
      let mayBeAlias ← if isCommand then pure true else leavesAlias source.rest.length start
      let token ← token isCommand newlines
      let found ← match token with
        | .word word =>
          match word.literal? with
          | some spelled => do
            let text ← alias? (String.ofList spelled) start
            pure (text.map fun text => (String.ofList spelled, text))
          | none => pure none
        | _ => pure none
      match found, mayBeAlias with
      | some (name, text), true =>
        expandAlias name text (← get).rest
        settle true newlines fuel
      | _, _ => set source

/-- How many short names may follow each other. -/
def maxAliases : Nat := 100

/-- The next token, which is taken. -/
def next (isCommand newlines : Bool) : Reading Token := do
  settle isCommand newlines maxAliases
  token isCommand newlines

/-- The next token, which stays. -/
def peek (isCommand newlines : Bool) : Reading Token := do
  settle isCommand newlines maxAliases
  let source ← get
  let token ← token isCommand newlines
  set source
  return token

def expectReserved (spelled : String) : Reading Unit := do
  let token ← next true true
  if token.isReserved spelled then return () else unexpected token (some (.reserved spelled))

end Reading

end BoardDebug.Build.Shell
