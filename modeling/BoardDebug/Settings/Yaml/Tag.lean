import BoardDebug.Bytes
import BoardDebug.Settings.Yaml.Cursor
import BoardDebug.Text.Number
import BoardDebug.Text.Utf8

namespace BoardDebug.Yaml

def isNameChar (c : Char) : Bool :=
  c.isAlphanum || c == '_' || c == '-'

/-- What is said of the kind of a value: a handle, which stands for the first part of a name, and
the rest of the name. -/
structure Tag where
  handle : List Char
  suffix : Bytes
deriving DecidableEq

/-- What a line in front of a document says. -/
inductive Directive where
  | version (major minor : Nat)
  /-- What a handle stands for. -/
  | handle (spelled : List Char) (meaning : Bytes)
deriving DecidableEq

namespace Reading

/-- The name of a value that is to be repeated. -/
def anchorName : Reading (List Char) := do
  let name ← takeWhile isNameChar
  let next ← ahead 0
  let ends := endsWord next ||
    next.any fun c => ['?', ':', ',', ']', '\x7d', '%', '@', '\x60'].contains c
  if name.isEmpty ∨ !ends then failure else return name

/-- A handle: a word between exclamation marks. The last one may be missing. -/
def tagHandle : Reading (List Char) := do
  expect '!'
  let name ← takeWhile isNameChar
  let closed ← eat '!'
  return '!' :: name ++ (if closed then ['!'] else [])

/-- A byte behind a percent sign. -/
def percentByte : Reading UInt8 := do
  expect '%'
  let digits ← take 2
  match Text.digits? 16 digits with
  | some byte => if digits.length = 2 then return .ofNat byte else failure
  | none => failure

/-- Bytes behind percent signs, which make a character up. -/
def percentBytes : Reading Bytes := do
  let first ← percentByte
  let rest ←
    if first < 0x80 then pure 0
    else if first &&& 0xe0 = 0xc0 then pure 1
    else if first &&& 0xf0 = 0xe0 then pure 2
    else if first &&& 0xf8 = 0xf0 then pure 3
    else failure
  let others ← (List.replicate rest ()).mapM fun _ => do
    let byte ← percentByte
    if byte &&& 0xc0 = 0x80 then return byte else failure
  return first :: others

def isTagChar (inBrackets : Bool) (c : Char) : Bool :=
  isNameChar c ||
    [';', '/', '?', ':', '@', '&', '=', '+', '$', '.', '!', '~', '*', '\x27', '(',
      ')'].contains c ||
    (inBrackets && (c == ',' || c == '[' || c == ']'))

/-- A part of the name of a tag, and whether anything was there. A zero byte ends its meaning. -/
def tagPart (inBrackets : Bool) : Reading (Bytes × Bool) := do
  let bytes ← go (← fuel)
  return (bytes.takeWhile (· ≠ 0), !bytes.isEmpty)
where
  go : Nat → Reading Bytes
    | 0 => return []
    | fuel + 1 => do
      match ← ahead 0 with
      | none => return []
      | some c =>
        if c = '%' then
          let bytes ← percentBytes
          return bytes ++ (← go fuel)
        else if isTagChar inBrackets c then
          let _ ← any
          return Utf8.encode [c] ++ (← go fuel)
        else return []

def filledTagPart (inBrackets : Bool) : Reading Bytes := do
  let (part, isFilled) ← tagPart inBrackets
  if isFilled then return part else failure

/-- A tag: a whole name between angle brackets, a handle and the rest of a name, or an exclamation
mark with or without a name of one's own. -/
def tag (inFlow : Bool) : Reading Tag := do
  let found ← if (← ahead 1) = some '<' then whole else short
  let next ← ahead 0
  if endsWord next ∨ (inFlow ∧ next = some ',') then return found else failure
where
  whole : Reading Tag := do
    let _ ← take 2
    let name ← filledTagPart true
    expect '>'
    return ⟨[], name⟩
  short : Reading Tag := do
    let handle ← tagHandle
    if 1 < handle.length ∧ handle.getLast? = some '!' then
      return ⟨handle, ← filledTagPart false⟩
    else
      let (rest, _) ← tagPart false
      let name := Utf8.encode handle.tail ++ rest
      return if name.isEmpty then ⟨[], Utf8.encode ['!']⟩ else ⟨['!'], name⟩

/-- A part of a version number. -/
def versionNumber : Reading Nat := do
  let digits ← takeWhile Char.isDigit
  match Text.digits? 10 digits with
  | some n => if digits.length ≤ 9 then return n else failure
  | none => failure

/-- A line that begins with a percent sign. -/
def directive : Reading Directive := do
  expect '%'
  let name ← takeWhile isNameChar
  if !endsWord (← ahead 0) then failure
  else if name = ['Y', 'A', 'M', 'L'] then
    skipWhile isBlank
    let major ← versionNumber
    expect '.'
    let minor ← versionNumber
    endLine
    return .version major minor
  else if name = ['T', 'A', 'G'] then
    skipWhile isBlank
    let handle ← tagHandle
    if handle ≠ ['!'] ∧ (handle.length < 2 ∨ handle.getLast? ≠ some '!') then failure
    else if !(← ahead 0).any isBlank then failure
    else
      skipWhile isBlank
      let meaning ← filledTagPart true
      if endsWord (← ahead 0) then
        endLine
        return .handle handle meaning
      else failure
  else failure

end Reading

end BoardDebug.Yaml
