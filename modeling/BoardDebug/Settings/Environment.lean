import BoardDebug.Settings.Layer
import BoardDebug.Text.Scan

namespace BoardDebug.Environment

open Text (Scan)

/-- What the names of all variables begin with. -/
def mark : String := "hf2dbg_"

def isSpace (c : Char) : Bool :=
  c == ' ' || c == '\t' || c == '\n' || c == '\r' || c == '\x0c'

def isSeparator (c : Char) : Bool :=
  c == ',' || c == '\x7b' || c == '\x7d' || c == '[' || c == ']'

def skipSpaces : Scan Unit :=
  Scan.skipWhile isSpace

def isNameChar (c : Char) : Bool :=
  c.isAlphanum || c == '_' || c == '-'

/-- The whole characters in the first `count` bytes of a text. -/
def withinBytes (count : Nat) : List Char → List Char
  | [] => []
  | c :: rest =>
    if c.utf8Size ≤ count then c :: withinBytes (count - c.utf8Size) rest else []

/-- The characters of a string up to its closing quote. -/
def stringRest : Nat → Scan (List Char)
  | 0 => failure
  | fuel + 1 => do
    let c ← Scan.any
    if c = '"' then return []
    else if c = '\\' then
      let e ← Text.escaped
      return e :: (← stringRest fuel)
    else if Text.isControl c then failure
    else return c :: (← stringRest fuel)

/-- A string behind its opening quote. What stands in front of its first backslash is cut to as
many bytes as it has characters. -/
def string : Scan String := do
  let start ← Scan.takeWhile fun c => c != '"' && c != '\\'
  if start.any Text.isControl then failure
  let spelled := (← get).head? = some '\\'
  let kept := if spelled then withinBytes start.length start else start
  return String.ofList (kept ++ (← stringRest ((← get).length + 1)))

/-- The name in a pair: a string in quotes, or a word. -/
def name : Scan String := do
  if ← Scan.eat '"' then string
  else
    let word ← Scan.takeWhile isNameChar
    if word.isEmpty then failure else return String.ofList word

/-- A number, or the text itself. -/
def plain (text : List Char) : Json.Value :=
  if text.contains '.' ∧ (Text.decimal? text).isSome then .fraction (String.ofList text)
  else
    match Text.unsigned? 10 0x10000000000000000 text, text with
    | some n, _ => .natural n
    | none, '-' :: digits =>
      match (Text.digits? 10 digits).filter (· ≤ 0x8000000000000000) with
      | some 0 => .natural 0
      | some n => .negative n
      | none => .text (String.ofList text)
    | none, _ => .text (String.ofList text)

mutual

def value : Nat → Scan Json.Value
  | 0 => failure
  | fuel + 1 => do
    skipSpaces
    let found ← bareValue fuel
    skipSpaces
    return found

def bareValue : Nat → Scan Json.Value
  | 0 => failure
  | fuel + 1 => do
    if ← Scan.eatWord ['t', 'r', 'u', 'e'] then return .bool true
    else if ← Scan.eatWord ['f', 'a', 'l', 's', 'e'] then return .bool false
    else if ← Scan.eat '\x7b' then return .object (← table fuel)
    else if ← Scan.eat '[' then return .list (← list fuel)
    else if ← Scan.eat '"' then return .text (← string)
    else if ← Scan.eat '\x27' then
      let c ← Scan.any
      Scan.expect '\x27'
      return .text (String.singleton c)
    else return plain (Text.trim (← Scan.takeWhile (!isSeparator ·)))

/-- The items of a list up to its closing bracket. -/
def list : Nat → Scan (List Json.Value)
  | 0 => failure
  | fuel + 1 => do
    if ← Scan.eat ']' then return []
    else
      let item ← value fuel
      if ← Scan.eat ',' then return item :: (← list fuel)
      else
        Scan.expect ']'
        return [item]

/-- The pairs of a table up to its closing brace. -/
def table : Nat → Scan Layer
  | 0 => failure
  | fuel + 1 => do
    if ← Scan.eat '\x7d' then return []
    else
      skipSpaces
      let name ← name
      skipSpaces
      Scan.expect '='
      let item ← value fuel
      if ← Scan.eat ',' then
        let others ← table fuel
        return if (Sorted.find? name others).isSome then others else Sorted.insert name item others
      else
        Scan.expect '\x7d'
        return [(name, item)]

end

/-- What the text of a variable means: a number, a word of truth, a string in quotes, a list or a
table; and anything else means itself. -/
def parse (text : String) : Json.Value :=
  let chars := text.toList
  (Scan.whole (value (2 * chars.length + 3)) chars).getD (.text text)

/-- A text with a point for every two underscores. -/
def pointed : List Char → List Char
  | '_' :: '_' :: rest => '.' :: pointed rest
  | c :: rest => c :: pointed rest
  | [] => []

/-- The names on the way to the setting that a variable gives: two underscores or a point part
them. White space around the name, and behind what all names begin with, does not count. -/
def path? (name : String) : Option (List String) :=
  let name := (Text.trim name.toList).map Char.toLower
  if mark.toList.isPrefixOf name then
    let rest := Text.trim (pointed (name.drop mark.length))
    let path := (rest.splitOn '.').map String.ofList
    if path.contains "" then none else some path
  else none

/-- The setting that a variable gives, if it gives one. -/
def layer (name text : String) : Layer :=
  match path? name with
  | some path =>
    match Layer.ofPath path (parse text) with
    | .object layer => layer
    | _ => []
  | none => []

/-- The settings that variables give. -/
def layers (environment : List (String × String)) : Layer :=
  Layer.mergeAll (environment.map fun (name, text) => layer name text)

end BoardDebug.Environment
