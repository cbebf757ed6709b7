namespace BoardDebug.Text

/-- The `text` filled up on the left with zeros to `width` characters. -/
def zeroFill (width : Nat) (text : List Char) : List Char :=
  List.replicate (width - text.length) '0' ++ text

/-- A number in hexadecimal with at least `width` digits. -/
def hexDigits (width n : Nat) : List Char :=
  zeroFill width (Nat.toDigits 16 n)

def hex (width n : Nat) : String :=
  String.ofList (hexDigits width n)

/-- A word with all its eight digits, as addresses and command codes are shown. -/
def hex8 (word : UInt32) : String :=
  "0x" ++ hex 8 word.toNat

/-- A byte with both digits. -/
def hex2 (byte : UInt8) : String :=
  "0x" ++ hex 2 byte.toNat

/-- Two capital digits, as an Intel HEX file spells its bytes. -/
def capitalHex2 (byte : UInt8) : String :=
  String.ofList ((hexDigits 2 byte.toNat).map Char.toUpper)

def hexDigit? (c : Char) : Option Nat :=
  if '0' ≤ c ∧ c ≤ '9' then some (c.toNat - '0'.toNat)
  else if 'a' ≤ c ∧ c ≤ 'f' then some (c.toNat - 'a'.toNat + 10)
  else if 'A' ≤ c ∧ c ≤ 'F' then some (c.toNat - 'A'.toNat + 10)
  else none

def showBool (b : Bool) : String :=
  if b then "true" else "false"

def showOption {α : Type} (text : α → String) : Option α → String
  | some a => "Some(" ++ text a ++ ")"
  | none => "None"

def showWords (words : List UInt32) : String :=
  "[" ++ ", ".intercalate (words.map fun word => s!"{word}") ++ "]"

/-- Decimals of a second, three for the milliseconds, without zeros at the end. -/
def decimals (milliseconds : Nat) : List Char :=
  let digits := Nat.toDigits 10 (1000 + milliseconds) |>.drop 1
  (digits.reverse.dropWhile (· = '0')).reverse

/-- A time in its largest unit. -/
def showDuration (milliseconds : Nat) : String :=
  if milliseconds = 0 then "0ns"
  else if milliseconds < 1000 then s!"{milliseconds}ms"
  else
    let fraction := decimals (milliseconds % 1000)
    let seconds := milliseconds / 1000
    if fraction.isEmpty then s!"{seconds}s" else s!"{seconds}." ++ String.ofList fraction ++ "s"

end BoardDebug.Text

namespace BoardDebug.Text

/-- The characters that count as white space. -/
def isBlank (c : Char) : Bool :=
  let code := c.toNat
  (9 ≤ code && code ≤ 13) || code == 0x20 || code == 0x85 || code == 0xa0 || code == 0x1680 ||
    (0x2000 ≤ code && code ≤ 0x200a) || code == 0x2028 || code == 0x2029 || code == 0x202f ||
    code == 0x205f || code == 0x3000

/-- A text without the white space at its two ends. -/
def trim (text : List Char) : List Char :=
  ((text.dropWhile isBlank).reverse.dropWhile isBlank).reverse

/-- A line without the carriage return that ends it. -/
def dropReturn (line : List Char) : List Char :=
  if line.getLast? = some '\r' then line.dropLast else line

/-- The lines of a text, `line` being the start of the first one in reverse. -/
def linesFrom (line : List Char) : List Char → List (List Char)
  | [] => if line.isEmpty then [] else [line.reverse]
  | c :: rest =>
    if c = '\n' then dropReturn line.reverse :: linesFrom [] rest else linesFrom (c :: line) rest

/-- The lines of a text. A line feed ends a line, with a carriage return before it or without; a
carriage return at the very end belongs to the last line. -/
def lines (text : List Char) : List (List Char) :=
  linesFrom [] text

end BoardDebug.Text
