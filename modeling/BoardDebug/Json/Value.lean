import BoardDebug.Text.Show

namespace BoardDebug.Json

/-- A JSON value. An object keeps the order of its members. -/
inductive Value where
  | null
  | bool (b : Bool)
  | natural (n : Nat)
  /-- The number `-n`, for a positive `n`. -/
  | negative (n : Nat)
  /-- A number that is no 64-bit integer, as it was spelled. -/
  | fraction (spelling : String)
  | text (s : String)
  | list (items : List Value)
  | object (members : List (String × Value))

/-- How a character is written inside quotes: quotes, backslashes and control characters are
escaped, all else stands for itself. -/
def escape (c : Char) : List Char :=
  if c = '"' then ['\\', '"']
  else if c = '\\' then ['\\', '\\']
  else if c = '\x08' then ['\\', 'b']
  else if c = '\x0c' then ['\\', 'f']
  else if c = '\n' then ['\\', 'n']
  else if c = '\r' then ['\\', 'r']
  else if c = '\t' then ['\\', 't']
  else if c.toNat < 32 then '\\' :: 'u' :: Text.hexDigits 4 c.toNat
  else [c]

def quote (s : String) : List Char :=
  '"' :: s.toList.flatMap escape ++ ['"']

mutual

/-- The compact text of a value. -/
def Value.chars : Value → List Char
  | .null => "null".toList
  | .bool true => "true".toList
  | .bool false => "false".toList
  | .natural n => Nat.toDigits 10 n
  | .negative n => '-' :: Nat.toDigits 10 n
  | .fraction spelling => spelling.toList
  | .text s => quote s
  | .list items => '[' :: itemChars items
  | .object members => '\x7b' :: memberChars members

/-- The items of a list and its closing bracket. -/
def itemChars : List Value → List Char
  | [] => [']']
  | [item] => item.chars ++ [']']
  | item :: rest => item.chars ++ ',' :: itemChars rest

/-- The members of an object and its closing brace. -/
def memberChars : List (String × Value) → List Char
  | [] => ['\x7d']
  | [(name, value)] => quote name ++ ':' :: value.chars ++ ['\x7d']
  | (name, value) :: rest => quote name ++ ':' :: value.chars ++ ',' :: memberChars rest

end

def Value.render (value : Value) : String :=
  String.ofList value.chars

/-- A value that may be missing is written as `null` when it is. -/
def ofOption {α : Type} (value : α → Value) : Option α → Value
  | none => .null
  | some a => value a

def ofWord (word : UInt32) : Value :=
  .natural word.toNat

end BoardDebug.Json
