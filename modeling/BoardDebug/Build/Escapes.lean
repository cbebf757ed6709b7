import BoardDebug.Text.Number
import BoardDebug.Text.Utf8

namespace BoardDebug.Build.Escapes

def octalDigit? (c : Char) : Option Nat :=
  Text.digit? 8 c

/-- The byte that up to three octal digits spell, and what follows them. -/
def octal (text : List Char) : Char × List Char :=
  let digits := (text.take 3).takeWhile fun c => (octalDigit? c).isSome
  (.ofNat ((Text.digits? 8 digits).getD 0 % 256), text.drop digits.length)

/-- The byte that is spelled by a backslash and a letter. -/
def control? (c : Char) : Option Char :=
  match c with
  | 'a' => some '\x07'
  | 'b' => some '\x08'
  | 'e' => some '\x1b'
  | 'f' => some '\x0c'
  | 'n' => some '\n'
  | 'r' => some '\r'
  | 't' => some '\t'
  | 'v' => some '\x0b'
  | '\\' => some '\\'
  | _ => none

/-- What digits of base sixteen spell behind a letter: a byte, or a character. One that is more than
a byte of its own is named by its number. -/
def hex? (letter : Char) (text : List Char) : Option (List Char × List Char) :=
  let most := match letter with
    | 'x' => 2
    | 'u' => 4
    | 'U' => 8
    | _ => 0
  let digits := (text.take most).takeWhile fun c => (Text.digit? 16 c).isSome
  (Text.digits? 16 digits).map fun code =>
    let chars := if letter = 'x' ∨ code < 128 then [.ofNat code] else named code
    (chars, text.drop digits.length)
where
  named (code : Nat) : List Char :=
    let (letter, width) := if code < 0x10000 then ('u', 4) else ('U', 8)
    let digits := (Nat.toDigits 16 code).map Char.toUpper
    '\\' :: letter :: List.replicate (width - digits.length) '0' ++ digits

/-- A text with escapes: an octal number may have a zero in front of it, and `\c` ends
everything. -/
def text (knowsHex : Bool) : Nat → List Char → List Char × Bool
  | 0, _ => ([], false)
  | _, [] => ([], false)
  | _, '\\' :: 'c' :: _ => ([], true)
  | fuel + 1, '\\' :: '0' :: rest =>
    let (c, rest) := octal rest
    let (written, isOver) := text knowsHex fuel rest
    (c :: written, isOver)
  | fuel + 1, '\\' :: c :: rest =>
    if (octalDigit? c).isSome then
      let (c, rest) := octal (c :: rest)
      let (written, isOver) := text knowsHex fuel rest
      (c :: written, isOver)
    else
      match if knowsHex then hex? c rest else none with
      | some (chars, rest) =>
        let (written, isOver) := text knowsHex fuel rest
        (chars ++ written, isOver)
      | none =>
        let (written, isOver) := text knowsHex fuel rest
        (((control? c).map ([·])).getD ['\\', c] ++ written, isOver)
  | fuel + 1, c :: rest =>
    let (written, isOver) := text knowsHex fuel rest
    (c :: written, isOver)

end BoardDebug.Build.Escapes
