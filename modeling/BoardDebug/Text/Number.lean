import BoardDebug.Text.Show

namespace BoardDebug.Text

/-- The value of a digit in a base up to sixteen. -/
def digit? (base : Nat) (c : Char) : Option Nat :=
  (hexDigit? c).filter (· < base)

/-- The number that digits of a base spell; there has to be a digit. -/
def digits? (base : Nat) (digits : List Char) : Option Nat :=
  if digits.isEmpty then none
  else (digits.mapM (digit? base)).map fun values => values.foldl (fun n d => n * base + d) 0

/-- A number below `bound` in a base, with one plus sign in front or without. -/
def unsigned? (base bound : Nat) (text : List Char) : Option Nat :=
  let digits := match text with
    | '+' :: digits => digits
    | digits => digits
  (digits? base digits).filter (· < bound)

def isSign (c : Char) : Bool :=
  c == '+' || c == '-'

/-- A text without the sign in front of it. -/
def dropSign (text : List Char) : List Char :=
  match text with
  | c :: rest => if isSign c then rest else text
  | [] => []

/-- A decimal number with or without a fraction and an exponent: the number that all its digits
spell, and the power of ten that goes with it. The sign is left out. Digits may be missing before
the point or behind it. -/
def decimal? (text : List Char) : Option (Nat × Int) := do
  let (mantissa, exponent) := (dropSign text).span fun c => c ≠ 'e' ∧ c ≠ 'E'
  let (whole, fraction) := mantissa.span (· ≠ '.')
  let digits ← digits? 10 (whole ++ fraction.tail)
  let power : Int ← match exponent with
    | [] => some 0
    | _ :: power =>
      (digits? 10 (dropSign power)).map fun n => if power.head? = some '-' then -n else n
  return (digits, power - fraction.tail.length)

/-- The base that the first characters of a number name, and the rest. -/
def numberBase (text : List Char) : Nat × List Char :=
  match text with
  | '0' :: c :: digits =>
    if c = 'x' ∨ c = 'X' then (16, digits)
    else if c = 'o' ∨ c = 'O' then (8, digits)
    else if c = 'b' ∨ c = 'B' then (2, digits)
    else (10, text)
  | _ => (10, text)

/-- A word in any base, with blanks around it. Underscores may stand anywhere but in front. -/
def word? (text : List Char) : Option UInt32 :=
  let text := trim text
  if text.head? = some '_' then none
  else
    let (base, digits) := numberBase text
    (unsigned? base 0x100000000 (digits.filter (· ≠ '_'))).map .ofNat

end BoardDebug.Text

namespace BoardDebug.Decimal

/-- The nearest number with at most 53 binary digits before the zeros at its end; of two, the one
whose last digit is even. -/
def round (n : Nat) : Nat :=
  let unit := Nat.pow 2 (n.log2 - 52)
  let kept := n / unit
  let left := n % unit
  if unit < 2 * left ∨ (unit = 2 * left ∧ kept % 2 = 1) then (kept + 1) * unit else kept * unit

/-- Whether a number is too large to be rounded to a double. -/
def pastLimit (n : Nat) : Bool :=
  Nat.pow 2 1024 - Nat.pow 2 970 ≤ n

/-- Whether `digits * 10 ^ exponent` is too large to be rounded to a double. -/
def tooLarge (digits : Nat) (exponent : Int) : Bool :=
  let size : Int := (Nat.toDigits 10 digits).length + exponent
  if digits = 0 || size < 309 then false
  else if 309 < size then true
  else if 0 ≤ exponent then pastLimit (digits * Nat.pow 10 exponent.toNat)
  else
    (Nat.pow 2 1024 - Nat.pow 2 970) * Nat.pow 10 (-exponent).toNat ≤ digits

end BoardDebug.Decimal
