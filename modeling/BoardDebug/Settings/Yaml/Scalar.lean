import BoardDebug.Bytes
import BoardDebug.Json.Value
import BoardDebug.Text.Number
import BoardDebug.Text.Utf8

namespace BoardDebug.Yaml.Scalar

def isNull (text : String) : Bool :=
  ["null", "Null", "NULL", "~"].contains text

def bool? (text : String) : Option Bool :=
  if ["true", "True", "TRUE"].contains text then some true
  else if ["false", "False", "FALSE"].contains text then some false
  else none

/-- Whether digits begin with a zero that has no meaning. Such a text is no number. -/
def isPadded (text : List Char) : Bool :=
  match Text.dropSign text with
  | '0' :: c :: rest => (c :: rest).all (·.isDigit)
  | _ => false

/-- A whole number without a sign. -/
def natural? (text : List Char) : Option Nat :=
  match text with
  | '0' :: 'x' :: digits => Text.digits? 16 digits
  | '0' :: 'o' :: digits => Text.digits? 8 digits
  | '0' :: 'b' :: digits => Text.digits? 2 digits
  | digits => if isPadded digits then none else Text.digits? 10 digits

/-- A whole number of at most 128 bits. Only one of 64 bits is kept as such. -/
def int? (text : List Char) : Option Json.Value :=
  let long := .fraction (String.ofList text)
  match text with
  | '-' :: digits =>
    match natural? digits with
    | none => none
    | some 0 => some (.natural 0)
    | some n =>
      if n ≤ 0x8000000000000000 then some (.negative n)
      else if n ≤ 0x80000000000000000000000000000000 then some long
      else none
  | digits =>
    let digits := if digits.head? = some '+' then digits.tail else digits
    match natural? digits with
    | none => none
    | some n =>
      if n < 0x10000000000000000 then some (.natural n)
      else if n < 0x100000000000000000000000000000000 then some long
      else none

/-- A number with a fraction or an exponent that is not too large, or one of the words for what is
no number. -/
def isFloat (text : List Char) : Bool :=
  let unsigned := if text.head? = some '+' then text.tail else text
  let isSpecial := ["inf", "Inf", "INF"].any (fun word => unsigned = '.' :: word.toList) ||
    ["-.inf", "-.Inf", "-.INF", ".nan", ".NaN", ".NAN"].contains (String.ofList text)
  if isSpecial then true
  else if unsigned.length < text.length ∧ unsigned.head?.any Text.isSign then false
  else
    match Text.decimal? unsigned with
    | some (digits, exponent) => !Decimal.tooLarge digits exponent
    | none => false

/-- What a text without quotes means. -/
def plain (text : String) : Json.Value :=
  if text = "" ∨ isNull text then .null
  else
    match bool? text, int? text.toList with
    | some b, _ => .bool b
    | none, some n => n
    | none, none =>
      if !isPadded text.toList ∧ isFloat text.toList then .fraction text else .text text

/-- Whether a tag is a name of one's own, for which there is no meaning. -/
def isLocal : Option Bytes → Bool
  | some (33 :: name) => (Utf8.decode? name).isSome
  | _ => false

/-- The tag of a kind of values that all know. -/
def core (kind : String) : Bytes :=
  Utf8.encode ("tag:yaml.org,2002:" ++ kind).toList

/-- What a text means that may have a tag. -/
def meaning? (tag : Option Bytes) (text : String) (isPlain : Bool) : Option Json.Value :=
  match tag with
  | none => some (if isPlain then plain text else .text text)
  | some name =>
    if isLocal tag then none
    else if name = core "bool" then (bool? text).map .bool
    else if name = core "int" then int? text.toList
    else if name = core "float" then
      if isFloat text.toList then some (.fraction text) else none
    else if name = core "null" then if isNull text then some .null else none
    else if name.head? = some 33 ∧ isPlain then some (plain text)
    else some (.text text)

end BoardDebug.Yaml.Scalar
