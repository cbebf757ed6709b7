import BoardDebug.Build.Shell.Record.Program
import BoardDebug.Build.Shell.Record.Token

namespace BoardDebug.Build.Shell.Record

/-- What is left of a program, and where in it one is. -/
structure Cursor where
  tokens : List (Token × Nat)
  /-- How many braces and brackets are open. -/
  braces : Nat := 0
  brackets : Nat := 0
  /-- How many loops are around. -/
  loops : Nat := 0
  inFunction : Bool := false
  /-- Whether the statements belong to a rule for records. -/
  inRule : Bool := false
  ranges : Nat := 0
  /-- The functions that are called, and with how many arguments. -/
  called : List (String × Nat) := []

/-- Reads something off the front of a program, or complains. -/
abbrev Parsing := StateT Cursor (Except String)

namespace Parsing

def peek : Parsing Token := do
  return ((← get).tokens.headD (.stop, 1)).1

def line : Parsing Nat := do
  return ((← get).tokens.headD (.stop, 1)).2

def complain {α : Type} (text : String) : Parsing α := do
  throw ("line " ++ toString (← line) ++ ": " ++ text)

/-- Complains about the next token. -/
def refuse {α : Type} : Parsing α := do
  let cursor ← get
  match ← peek with
  | .wrong text => throw text
  | .stop =>
    if 0 < cursor.braces then
      throw ("line " ++ toString ((← line) + 1) ++ ": missing \x7d near end of file")
    else complain "syntax error at or near end of line"
  | .sign ")" =>
    if cursor.brackets = 0 then complain "extra ')'" else complain "syntax error at or near )"
  | .sign "\x7d" =>
    if 0 < cursor.brackets then complain "missing ) near \x7d"
    else if cursor.braces = 0 then complain "extra '\x7d'"
    else complain "syntax error at or near \x7d"
  | token => complain ("syntax error at or near " ++ token.shown)

def advance : Parsing Unit :=
  modify fun cursor =>
    let cursor := match cursor.tokens.head? with
      | some (.sign "\x7b", _) => { cursor with braces := cursor.braces + 1 }
      | some (.sign "\x7d", _) => { cursor with braces := cursor.braces - 1 }
      | some (.sign "(", _) => { cursor with brackets := cursor.brackets + 1 }
      | some (.sign ")", _) => { cursor with brackets := cursor.brackets - 1 }
      | _ => cursor
    match cursor.tokens with
    | [last] => { cursor with tokens := [last] }
    | tokens => { cursor with tokens := tokens.tail }

def isSign (sign : String) : Parsing Bool := do
  match ← peek with
  | .sign s => return s == sign
  | _ => return false

def isWord (word : String) : Parsing Bool := do
  match ← peek with
  | .word s => return s == word
  | _ => return false

def eat (sign : String) : Parsing Bool := do
  if ← isSign sign then
    advance
    return true
  else return false

def eatWord (word : String) : Parsing Bool := do
  if ← isWord word then
    advance
    return true
  else return false

def expect (sign : String) : Parsing Unit := do
  if !(← eat sign) then refuse

/-- The first of some signs, if it comes next. -/
def oneOf (signs : List String) : Parsing (Option String) := do
  match ← peek with
  | .sign s =>
    if signs.contains s then
      advance
      return some s
    else return none
  | _ => return none

def skipNewlines : Nat → Parsing Unit
  | 0 => return ()
  | fuel + 1 => do
    match ← peek with
    | .newline =>
      advance
      skipNewlines fuel
    | _ => return ()

/-- Passes over line ends. -/
def newlines : Parsing Unit := do
  skipNewlines (← get).tokens.length

def name : Parsing String := do
  match ← peek with
  | .name s =>
    advance
    return s
  | _ => refuse

/-- Goes on with something as long as more of it comes. -/
def chain {α : Type} (more : α → Parsing (Option α)) : Nat → α → Parsing α
  | 0, found => return found
  | fuel + 1, found => do
    match ← more found with
    | some next => chain more fuel next
    | none => return found

/-- How tightly signs bind, the loosest first. -/
inductive Level where
  | whole
  | either
  | both
  | among
  | matches
  | compare
  | join
  | sum
  | product
  | sign
  | pipe
  | power
  | step
  | atom

/-- Whether a token begins an operand that is put behind another one. -/
def startsOperand : Token → Bool
  | .number _ _ => true
  | .text _ => true
  | .regex _ => true
  | .name _ => true
  | .call _ => true
  | .builtin _ => true
  | .word s => s == "getline"
  | .sign s => ["$", "!", "(", "++", "--"].contains s
  | _ => false

def assignSigns : List String :=
  ["=", "+=", "-=", "*=", "/=", "%=", "^="]

/-- A description with what its escapes stand for. -/
def describe (spelled : String) : Except String (Regex × String) :=
  match Regex.read .loose (plain (spelled.length + 1) spelled.toList) with
  | .ok (regex, _) => .ok (regex, spelled)
  | .error fault =>
    let what := match fault with
      | .openGroup => "missing ')'"
      | .closedGroup => "missing '('"
      | .openBracket => "bad class -- [], [^] or ["
      | .nothingToRepeat => "missing operand"
      | _ => "bad interval expression"
    .error ("regular expression compile failed (" ++ what ++ ")\n" ++ spelled)
where
  plain : Nat → List Char → List Char
    | 0, _ => []
    | _, [] => []
    | fuel + 1, '\\' :: c :: rest =>
      if c = '/' ∨ c = '"' then c :: plain fuel rest
      else if (Escapes.octalDigit? c).isSome then
        let (byte, rest) := Escapes.octal (c :: rest)
        quoted byte ++ plain fuel rest
      else
        match if c = 'x' then Escapes.hex? c rest else none with
        | some (chars, rest) => chars.flatMap quoted ++ plain fuel rest
        | none =>
          if c = '\\' ∨ c = 'e' then '\\' :: c :: plain fuel rest
          else
            match Escapes.control? c with
            | some byte => byte :: plain fuel rest
            | none => (if c.isAlphanum then [c] else ['\\', c]) ++ plain fuel rest
    | fuel + 1, c :: rest => c :: plain fuel rest
  quoted (c : Char) : List Char :=
    if c.isAlphanum ∨ c < ' ' then [c] else ['\\', c]

/-- How many arguments the functions take that are always there. -/
def arity (name : String) : Nat × Nat :=
  if ["index", "match", "atan2"].contains name then (2, 2)
  else if ["substr", "split", "sub", "gsub"].contains name then (2, 3)
  else if ["srand", "fflush", "length"].contains name then (0, 1)
  else if name = "rand" ∨ name = "systime" then (0, 0)
  else if name = "strftime" then (0, 3)
  else if name = "sprintf" then (1, 1000)
  else (1, 1)

/-- Some expressions with commas between them. -/
def several (one : Parsing Expr) : Nat → Parsing (List Expr)
  | 0 => refuse
  | fuel + 1 => do
    let first ← one
    if ← eat "," then
      newlines
      return first :: (← several one fuel)
    else return [first]

/-- Expressions in brackets, of which there may be none. -/
def bracketed (one : Parsing Expr) : Parsing (List Expr) := do
  expect "("
  newlines
  if ← eat ")" then return []
  else
    let es ← several one (← get).tokens.length
    newlines
    expect ")"
    return es

/-- An expression. In an output statement, a sign that says where to write is not a part of it. -/
def expression : Nat → (inPrint : Bool) → Level → Parsing Expr
  | 0, _, _ => refuse
  | fuel + 1, inPrint, level => do
    let sub (level : Level) : Parsing Expr := expression fuel inPrint level
    let inner : Parsing Expr := expression fuel false .whole
    let left (below : Level) (more : Expr → Parsing (Option Expr)) : Parsing Expr := do
      chain more (← get).tokens.length (← sub below)
    match level with
    | .whole =>
      let condition ← sub .either
      if ← eat "?" then
        newlines
        let yes ← sub .whole
        newlines
        expect ":"
        newlines
        return .choose condition yes (← sub .whole)
      else return condition
    | .either => left .both fun a => do
        if ← eat "||" then
          newlines
          return some (.either a (← sub .both))
        else return none
    | .both => left .among fun a => do
        if ← eat "&&" then
          newlines
          return some (.both a (← sub .among))
        else return none
    | .among => left .matches fun a => do
        if ← eatWord "in" then
          let keys := match a with
            | .list es => es
            | e => [e]
          return some (.among keys (← name))
        else return none
    | .matches => left .compare fun a => do
        match ← oneOf ["~", "!~"] with
        | some sign => return some (.matches (sign == "!~") a (← sub .compare))
        | none => return none
    | .compare => left .join fun a => do
        let signs := ["<", "<=", "==", "!=", ">="] ++ if inPrint then [] else [">"]
        match ← oneOf signs with
        | some sign => return some (.compare sign a (← sub .join))
        | none => return none
    | .join => left .sum fun a => do
        if startsOperand (← peek) then return some (.join a (← sub .sum)) else return none
    | .sum => left .product fun a => do
        match ← oneOf ["+", "-"] with
        | some sign => return some (.arithmetic (sign.toList.headD '+') a (← sub .product))
        | none => return none
    | .product => left .sign fun a => do
        match ← oneOf ["*", "/", "%"] with
        | some sign => return some (.arithmetic (sign.toList.headD '*') a (← sub .sign))
        | none => return none
    | .sign =>
      match ← oneOf ["!", "-", "+"] with
      | some sign => return .unary (sign.toList.headD '!') (← sub .sign)
      | none => sub .pipe
    | .pipe => left .power fun a => do
        match (← get).tokens with
        | (.sign "|", _) :: (.word "getline", _) :: _ =>
          advance
          advance
          return some (.getline .command (some a) (← target? (sub .atom)))
        | _ => return none
    | .power =>
      let base ← sub .step
      if ← eat "^" then
        match ← peek with
        | .sign s =>
          let isSigned := ["-", "+", "!"].contains s
          return .arithmetic '^' base (← sub (if isSigned then .sign else .power))
        | _ => return .arithmetic '^' base (← sub .power)
      else return base
    | .step =>
      match ← sub .atom with
      | .target t =>
        match ← oneOf ("++" :: "--" :: assignSigns) with
        | some "++" => return .step false 1.0 t
        | some "--" => return .step false (-1.0) t
        | some sign =>
          newlines
          return .assign sign t (← sub .whole)
        | none => return .target t
      | e => return e
    | .atom =>
      match ← peek with
      | .number x _ =>
        advance
        return .number x
      | .text s =>
        advance
        return .text s
      | .regex spelled =>
        match describe spelled with
        | .ok (regex, spelled) =>
          advance
          return .regex regex spelled
        | .error text => complain text
      | .sign "(" =>
        let es ← bracketed inner
        if es.isEmpty then refuse
        else if 1 < es.length ∧ (← isWord "in") then
          advance
          return .among es (← name)
        else return .list es
      | .sign "$" =>
        advance
        let isSigned ← (["-", "+", "!"].anyM isSign)
        return .target (.field (← sub (if isSigned then .sign else .atom)))
      | .sign "++" => stepped (sub .atom) 1.0
      | .sign "--" => stepped (sub .atom) (-1.0)
      | .name s =>
        advance
        if ← eat "[" then
          let keys ← several inner (← get).tokens.length
          expect "]"
          return .target (.item s keys)
        else return .target (.name s)
      | .call s =>
        advance
        let es ← bracketed inner
        modify fun cursor => { cursor with called := (s, es.length) :: cursor.called }
        return .call s es
      | .builtin s =>
        advance
        let isBare ← if s = "length" then do pure !(← isSign "(") else pure false
        let es ← if isBare then pure [] else bracketed inner
        let (least, most) := arity s
        if es.length < least ∨ most < es.length then
          complain ("wrong number of arguments in call to " ++ s)
        return .builtin s es
      | .word "getline" =>
        advance
        let t ← target? (sub .atom)
        if ← eat "<" then return .getline .file (some (← sub .power)) t
        else return .getline .main none t
      | _ => refuse
where
  target? (atom : Parsing Expr) : Parsing (Option Target) := do
    let isTarget := match ← peek with
      | .name _ => true
      | .sign "$" => true
      | _ => false
    if !isTarget then return none
    else
      match ← atom with
      | .target t => return some t
      | _ => refuse
  stepped (atom : Parsing Expr) (by' : Float) : Parsing Expr := do
    advance
    match ← atom with
    | .target t => return .step true by' t
    | _ => refuse

/-- An expression up to where it ends. -/
def whole (inPrint : Bool) : Parsing Expr := do
  expression (20 * ((← get).tokens.length + 1)) inPrint .whole

/-- The end of a statement that is not in braces. -/
def ended : Parsing Unit := do
  match ← peek with
  | .sign ";" => advance
  | .newline => advance
  | .sign "\x7d" => return ()
  | .stop => return ()
  | _ => refuse

/-- Whether nothing follows in a statement. -/
def isOver : Parsing Bool := do
  match ← peek with
  | .sign s => return [";", "\x7d", ">", ">>", "|"].contains s
  | .newline => return true
  | .stop => return true
  | _ => return false

/-- What is written, and where to. -/
def output (build : List Expr → Outlet → Statement) : Parsing Statement := do
  let es ← if ← isOver then pure [] else several (whole true) (← get).tokens.length
  let es := match es with
    | [.list inner] => inner
    | es => es
  let outlet ← match ← oneOf [">", ">>", "|"] with
    | some ">" => pure (Outlet.file (← whole true))
    | some ">>" => pure (Outlet.append (← whole true))
    | some _ => pure (Outlet.command (← whole true))
    | none => pure Outlet.main
  return build es outlet

/-- A condition in brackets. -/
def condition : Parsing Expr := do
  expect "("
  let e ← whole false
  expect ")"
  return e

def optional (es : Parsing Bool) (act : Parsing Expr) : Parsing (Option Expr) := do
  if ← es then return none else return some (← act)

/-- A statement that consists of words and expressions only. -/
def simple : Parsing Statement := do
  match ← peek with
  | .word "print" =>
    advance
    output .print
  | .word "printf" =>
    advance
    output fun es outlet => .printf es outlet
  | .word "next" =>
    if !(← get).inRule then complain "improper use of next"
    advance
    return .next
  | .word "nextfile" =>
    if !(← get).inRule then complain "improper use of nextfile"
    advance
    return .nextFile
  | .word "break" =>
    if (← get).loops = 0 then complain "break statement outside of loop"
    advance
    return .break
  | .word "continue" =>
    if (← get).loops = 0 then complain "continue statement outside of loop"
    advance
    return .continue
  | .word "exit" =>
    advance
    return .exit (← optional isOver (whole false))
  | .word "return" =>
    if !(← get).inFunction then complain "return outside function body"
    advance
    return .return (← optional isOver (whole false))
  | .word "delete" =>
    advance
    let table ← name
    if ← eat "[" then
      let keys ← several (whole false) (← get).tokens.length
      expect "]"
      return .delete table (some keys)
    else return .delete table none
  | _ => return .eval (← whole false)

/-- Reads the body of a loop. -/
def looped {α : Type} (act : Parsing α) : Parsing α := do
  modify fun cursor => { cursor with loops := cursor.loops + 1 }
  let found ← act
  modify fun cursor => { cursor with loops := cursor.loops - 1 }
  return found

/-- A statement with its end. -/
def statement : Nat → Parsing Statement
  | 0 => refuse
  | fuel + 1 => do
    let inner : Parsing Statement := do
      newlines
      statement fuel
    match ← peek with
    | .sign "\x7b" =>
      advance
      return .block (← block fuel)
    | .sign ";" =>
      advance
      return .block []
    | .word "if" =>
      advance
      let condition ← condition
      let yes ← inner
      let cursor ← get
      newlines
      if ← eatWord "else" then return .branch condition yes (some (← inner))
      else
        set cursor
        return .branch condition yes none
    | .word "while" =>
      advance
      let condition ← condition
      return .loop condition (← looped inner)
    | .word "do" =>
      advance
      let body ← looped inner
      newlines
      if !(← eatWord "while") then refuse
      let condition ← condition
      ended
      return .until body condition
    | .word "for" =>
      advance
      expect "("
      match (← get).tokens with
      | (.name item, _) :: (.word "in", _) :: (.name table, _) :: (.sign ")", _) :: _ =>
        advance
        advance
        advance
        advance
        return .each item table (← looped inner)
      | _ =>
        let start ← part ";"
        newlines
        let condition ← optional (isSign ";") (whole false)
        expect ";"
        newlines
        let step ← part ")"
        return .count start condition step (← looped inner)
    | _ =>
      let found ← simple
      ended
      return found
where
  part (close : String) : Parsing (Option Statement) := do
    if ← eat close then return none
    else
      let found ← simple
      expect close
      return some found
  /-- Statements up to a closing brace, and that too. -/
  block : Nat → Parsing (List Statement)
    | 0 => refuse
    | fuel + 1 => do
      newlines
      if ← eat "\x7d" then return []
      else
        match ← peek with
        | .stop => refuse
        | _ =>
          let first ← statement fuel
          return first :: (← block fuel)

/-- Statements in braces. -/
def action : Parsing Statement := do
  if !(← isSign "\x7b") then refuse
  else statement (2 * (← get).tokens.length + 2)

/-- The names of the parameters of a function. -/
def parameters : Nat → Parsing (List String)
  | 0 => return []
  | fuel + 1 => do
    newlines
    let first ← name
    if ← eat "," then
      let others ← parameters fuel
      if others.contains first then complain (first ++ " is duplicated in argument list")
      return first :: others
    else return [first]

/-- A rule, or a function. -/
def item (program : Program) : Parsing Program := do
  let add (condition : Condition) (action : Statement) : Program :=
    { program with rules := program.rules ++ [⟨condition, action⟩] }
  let ruled {α : Type} (inRule : Bool) (act : Parsing α) : Parsing α := do
    modify fun cursor => { cursor with inRule }
    act
  match ← peek with
  | .word "BEGIN" =>
    advance
    return add .begin (← ruled false action)
  | .word "END" =>
    advance
    return add .stop (← ruled false action)
  | .word "function" =>
    advance
    let called ← match ← peek with
      | .call s => pure s
      | .name s => pure s
      | _ => refuse
    advance
    if (look called program.functions).isSome then complain ("redefinition of " ++ called)
    expect "("
    let isBare ← isSign ")"
    let names ← if isBare then pure [] else parameters (← get).tokens.length
    expect ")"
    newlines
    modify fun cursor => { cursor with inFunction := true }
    let body ← ruled false action
    modify fun cursor => { cursor with inFunction := false }
    return { program with functions := program.functions ++ [(called, ⟨names, body⟩)] }
  | .sign "\x7b" => return add .always (← ruled true action)
  | _ =>
    let first ← whole false
    let condition ← if ← eat "," then do
        newlines
        let last ← whole false
        let number := (← get).ranges
        modify fun cursor => { cursor with ranges := number + 1 }
        pure (Condition.range number first last)
      else pure (Condition.holds first)
    if ← isSign "\x7b" then return add condition (← ruled true action)
    else
      ended
      return add condition (.print [] .main)
where
  look (key : String) (pairs : List (String × Function)) : Option Function :=
    (pairs.find? fun (k, _) => k = key).map (·.2)

/-- All rules and functions. -/
def items : Nat → Program → Parsing Program
  | 0, program => return program
  | fuel + 1, program => do
    newlines
    match ← peek with
    | .stop => return program
    | .sign ";" =>
      advance
      items fuel program
    | _ => items fuel (← item program)

end Parsing

/-- The program that a text spells, or what is wrong with it. -/
def Program.read (text : String) : Except String Program := do
  let chars := text.toList
  let tokens := Scan.scan (chars.length + 1) .newline 1 chars
  let (program, cursor) ← (Parsing.items (tokens.length + 1) {}).run { tokens }
  let line := toString (chars.count '\n' + (if chars.getLast? = some '\n' then 1 else 2))
  cursor.called.reverse.forM fun (name, count) =>
    match program.functions.find? fun (n, _) => n = name with
    | none => throw ("line " ++ line ++ ": function " ++ name ++ " never defined")
    | some (_, function) =>
      if function.parameters.length < count then
        throw ("line " ++ line ++ ": too many arguments in call to " ++ name)
      else return ()
  return program

end BoardDebug.Build.Shell.Record
