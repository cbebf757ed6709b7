import BoardDebug.Json.Value
import BoardDebug.Text.Number
import BoardDebug.Text.Scan

namespace BoardDebug.Toml

open Text (Scan)

def isSpace (c : Char) : Bool :=
  c == ' ' || c == '\t'

def skipSpaces : Scan Unit :=
  Scan.skipWhile isSpace

/-- Takes a line end, if there is one. -/
def eatNewline : Scan Bool := do
  if ← Scan.eat '\n' then return true else Scan.eatWord ['\r', '\n']

/-- The rest of a string on one line, up to its closing quote. -/
def lineRest (quote : Char) : Nat → Scan (List Char)
  | 0 => failure
  | fuel + 1 => do
    let c ← Scan.any
    if c = quote then return []
    else if c = '\\' ∧ quote = '"' then
      let e ← Text.escaped
      return e :: (← lineRest quote fuel)
    else if Text.isControl c then failure
    else return c :: (← lineRest quote fuel)

/-- Passes over the line end behind a backslash, and over all blanks and line ends that follow. -/
def joinLines : Scan Unit := do
  skipSpaces
  if ← eatNewline then skipLines ((← get).length + 1) else failure
where
  skipLines : Nat → Scan Unit
    | 0 => return ()
    | fuel + 1 => do
      skipSpaces
      if ← eatNewline then skipLines fuel

/-- The rest of a string that may go over lines, up to its three closing quotes. One or two more
quotes before these belong to the string. -/
def longRest (quote : Char) : Nat → Scan (List Char)
  | 0 => failure
  | fuel + 1 => do
    let quotes := ((← get).take 5).takeWhile (· = quote)
    if 3 ≤ quotes.length then
      modify (·.drop quotes.length)
      return quotes.drop 3
    else if ← eatNewline then return '\n' :: (← longRest quote fuel)
    else
      let c ← Scan.any
      if c = '\\' ∧ quote = '"' then
        if ← (joinLines >>= fun _ => return true) <|> return false then longRest quote fuel
        else
          let e ← Text.escaped
          return e :: (← longRest quote fuel)
      else if Text.isControl c then failure
      else return c :: (← longRest quote fuel)

/-- The rest of a string on one line. -/
def shortString (quote : Char) : Scan String := do
  return String.ofList (← lineRest quote ((← get).length + 1))

/-- A string behind its opening quote; two more quotes make it go over lines. -/
def stringAfter (quote : Char) : Scan String := do
  if ← Scan.eatWord [quote, quote] then
    let _ ← eatNewline
    return String.ofList (← longRest quote ((← get).length + 1))
  else shortString quote

def isBareKeyChar (c : Char) : Bool :=
  c.isAlphanum || c == '_' || c == '-'

/-- One name of a key. -/
def simpleKey : Scan String := do
  if ← Scan.eat '"' then shortString '"'
  else if ← Scan.eat '\x27' then shortString '\x27'
  else
    let name ← Scan.takeWhile isBareKeyChar
    if name.isEmpty then failure else return String.ofList name

/-- The names of a key, between points; there are fewer than 80. -/
def key : Scan (List String) :=
  names 79
where
  names : Nat → Scan (List String)
    | 0 => failure
    | more + 1 => do
      skipSpaces
      let name ← simpleKey
      skipSpaces
      if ← Scan.eat '.' then return name :: (← names more) else return [name]

/-- Digits between which single underscores may stand. -/
def grouped? (base : Nat) (digits : List Char) : Option Nat :=
  if digits.head? = some '_' ∨ digits.getLast? = some '_' then none
  else if (digits.zip digits.tail).contains ('_', '_') then none
  else Text.digits? base (digits.filter (· ≠ '_'))

/-- A decimal number without needless zeros. -/
def decimal? (digits : List Char) : Option Nat :=
  match digits with
  | '0' :: _ :: _ => none
  | digits => grouped? 10 digits

def ofNatural (n : Nat) : Option Json.Value :=
  if n < 0x8000000000000000 then some (.natural n) else none

def integer? (text : List Char) : Option Json.Value :=
  match text with
  | '0' :: 'x' :: digits => (grouped? 16 digits).bind ofNatural
  | '0' :: 'o' :: digits => (grouped? 8 digits).bind ofNatural
  | '0' :: 'b' :: digits => (grouped? 2 digits).bind ofNatural
  | '+' :: digits => (decimal? digits).bind ofNatural
  | '-' :: digits =>
    match decimal? digits with
    | some 0 => some (.natural 0)
    | some n => if n ≤ 0x8000000000000000 then some (.negative n) else none
    | none => none
  | digits => (decimal? digits).bind ofNatural

/-- Whether digits with a fraction or an exponent make a number. -/
def isFloat (text : List Char) : Bool :=
  let (mantissa, exponent) := (Text.dropSign text).span fun c => c ≠ 'e' ∧ c ≠ 'E'
  let (whole, fraction) := mantissa.span (· ≠ '.')
  let exponentFits := match exponent with
    | [] => true
    | _ :: digits => (grouped? 10 (Text.dropSign digits)).isSome
  let fractionFits := match fraction with
    | [] => true
    | _ :: digits => (grouped? 10 digits).isSome
  (decimal? whole).isSome && fractionFits && exponentFits &&
    !(exponent.isEmpty && fraction.isEmpty)

/-- Whether a number has no sign of its own and is too large for a double. Below zero there is no
such limit. -/
def isEndless (text : List Char) : Bool :=
  match Text.decimal? (text.filter (· ≠ '_')) with
  | some (digits, exponent) => text.head? ≠ some '-' && Decimal.tooLarge digits exponent
  | none => false

/-- A value that is a single word. -/
def word? (text : List Char) : Option Json.Value :=
  if text = "true".toList then some (.bool true)
  else if text = "false".toList then some (.bool false)
  else
    match integer? text with
    | some value => some value
    | none =>
      let body := Text.dropSign text
      if (isFloat text ∧ !isEndless text) ∨ body = "inf".toList ∨ body = "nan".toList then
        some (.fraction (String.ofList text))
      else none

def isWordChar (c : Char) : Bool :=
  c.isAlphanum || c == '_' || c == '+' || c == '-' || c == '.'

def word : Scan Json.Value := do
  match word? (← Scan.takeWhile isWordChar) with
  | some value => return value
  | none => failure

/-- A number of exactly `count` digits that lies between two bounds. -/
def fixed (count least greatest : Nat) : Scan Nat := do
  let text ← get
  let digits := text.take count
  match Text.digits? 10 digits with
  | some n =>
    if digits.length = count ∧ least ≤ n ∧ n ≤ greatest then
      set (text.drop count)
      return n
    else failure
  | none => failure

def daysOf (year month : Nat) : Nat :=
  if month = 2 then
    if year % 4 = 0 ∧ (year % 100 ≠ 0 ∨ year % 400 = 0) then 29 else 28
  else if month = 4 ∨ month = 6 ∨ month = 9 ∨ month = 11 then 30
  else 31

def date : Scan Unit := do
  let year ← fixed 4 0 9999
  Scan.expect '-'
  let month ← fixed 2 1 12
  Scan.expect '-'
  let _ ← fixed 2 1 (daysOf year month)

/-- A time of day; the last minute of a day may have a second more. -/
def time : Scan Unit := do
  let _ ← fixed 2 0 23
  Scan.expect ':'
  let _ ← fixed 2 0 59
  Scan.expect ':'
  let _ ← fixed 2 0 60
  if ← Scan.eat '.' then
    let digits ← Scan.takeWhile Char.isDigit
    if digits.isEmpty then failure

/-- How far a time is ahead of or behind the world's time. -/
def offset : Scan Unit := do
  match ← Scan.any with
  | 'Z' => return ()
  | 'z' => return ()
  | c =>
    if Text.isSign c then
      let _ ← fixed 2 0 23
      Scan.expect ':'
      let _ ← fixed 2 0 59
    else failure

/-- A time behind a date. -/
def timeAfterDate : Scan Unit := do
  match ← Scan.any with
  | 'T' => time
  | 't' => time
  | ' ' => time
  | _ => failure
  offset <|> return ()

/-- A date, a time or both. It counts as a table with one entry of a name that nobody gives. -/
def moment : Scan Json.Value := do
  let before ← get
  (do date; timeAfterDate <|> return ()) <|> time
  let spelling := before.take (before.length - (← get).length)
  return .object [("$__toml_private_datetime", .text (String.ofList spelling))]

end BoardDebug.Toml
