import BoardDebug.Text.Number

namespace BoardDebug.Build

/-- A number with a binary fraction: `mantissa * 2 ^ exponent`. -/
structure Magnitude where
  mantissa : Nat
  exponent : Int
deriving DecidableEq

namespace Magnitude

/-- The nearest whole number to a quotient, the even one of two. -/
def divideEven (n d : Nat) : Nat :=
  let (q, r) := (n / d, n % d)
  if d < 2 * r ∨ (d = 2 * r ∧ q % 2 = 1) then q + 1 else q

/-- The power of two, up or down, below which a quotient lies. -/
def scaleOf (n d : Nat) : Int :=
  (n.log2 : Int) - d.log2

/-- The nearest number with so many binary digits, the one with an even last digit of two. -/
def ofQuotient (bits : Nat) (n d : Nat) : Magnitude :=
  if n = 0 then ⟨0, 0⟩
  else
    let shift : Int := max (scaleOf n d - bits) (if bits ≤ 53 then -1074 else -16445)
    let (n, d) := if 0 ≤ shift then (n, d * Nat.pow 2 shift.toNat)
      else (n * Nat.pow 2 (-shift).toNat, d)
    let m := divideEven n d
    if m < Nat.pow 2 bits then ⟨m, shift⟩
    else
      let m := divideEven n (2 * d)
      ⟨m, shift + 1⟩

/-- The nearest number to `digits * 10 ^ power`. -/
def ofDecimal (bits digits : Nat) (power : Int) : Magnitude :=
  if 0 ≤ power then ofQuotient bits (digits * Nat.pow 10 power.toNat) 1
  else ofQuotient bits digits (Nat.pow 10 (-power).toNat)

/-- The number as a quotient. -/
def quotient (m : Magnitude) : Nat × Nat :=
  if 0 ≤ m.exponent then (m.mantissa * Nat.pow 2 m.exponent.toNat, 1)
  else (m.mantissa, Nat.pow 2 (-m.exponent).toNat)

/-- The digits of a number with so many of them behind a point that is not written. -/
def scaled (m : Magnitude) (places : Int) : Nat :=
  let (n, d) := m.quotient
  if 0 ≤ places then divideEven (n * Nat.pow 10 places.toNat) d
  else divideEven n (d * Nat.pow 10 (-places).toNat)

/-- Digits with a point in front of the last ones. -/
def pointed (places : Nat) (marks : Bool) (n : Nat) : List Char :=
  let digits := Nat.toDigits 10 n
  let digits := List.replicate (places + 1 - digits.length) '0' ++ digits
  let whole := digits.take (digits.length - places)
  if places = 0 then (if marks then whole ++ ['.'] else whole)
  else whole ++ '.' :: digits.drop (digits.length - places)

/-- A number with so many digits behind the point. -/
def fixed (m : Magnitude) (places : Nat) (marks : Bool) : List Char :=
  pointed places marks (m.scaled places)

/-- The power of ten at the first digit of a number. -/
def decimalScale (m : Magnitude) : Int :=
  if m.mantissa = 0 then 0
  else
    let (n, d) := m.quotient
    let guess : Int := (Nat.toDigits 10 n).length - (Nat.toDigits 10 d).length
    let reaches (k : Int) : Bool :=
      if 0 ≤ k then d * Nat.pow 10 k.toNat ≤ n else d ≤ n * Nat.pow 10 (-k).toNat
    if reaches (guess + 1) then guess + 1 else if reaches guess then guess else guess - 1

/-- The digits of a number, one in front of the point, and the power of ten that goes with them. -/
def significant (m : Magnitude) (places : Nat) : Nat × Int :=
  let scale := m.decimalScale
  let n := m.scaled (places - scale)
  if n < Nat.pow 10 (places + 1) then (n, scale) else (m.scaled (places - scale - 1), scale + 1)

def exponentText (letter : Char) (power : Int) : List Char :=
  let digits := Nat.toDigits 10 power.natAbs
  letter :: (if power < 0 then '-' else '+') :: List.replicate (2 - digits.length) '0' ++ digits

/-- A number with one digit in front of the point, and an exponent. -/
def scientific (m : Magnitude) (letter : Char) (places : Nat) (marks : Bool) : List Char :=
  let (n, power) := m.significant places
  pointed places marks n ++ exponentText letter power

/-- A text without the zeros at the end of a fraction. -/
def dropZeros (text : List Char) : List Char :=
  if text.contains '.' then
    let kept := (text.reverse.dropWhile (· = '0')).reverse
    if kept.getLast? = some '.' then kept.dropLast else kept
  else text

/-- A number with so many digits in all, in the shorter of the two ways. -/
def general (m : Magnitude) (letter : Char) (digits : Nat) (marks : Bool) : List Char :=
  let digits := max 1 digits
  let (_, power) := m.significant (digits - 1)
  if -4 ≤ power ∧ power < digits then
    let text := m.fixed (digits - 1 - power).toNat marks
    if marks then text else dropZeros text
  else
    let (n, power) := m.significant (digits - 1)
    let text := pointed (digits - 1) marks n
    (if marks then text else dropZeros text) ++ exponentText letter power

end Magnitude

/-- A number as a text may spell it. -/
inductive Numeral where
  | finite (isNegative : Bool) (magnitude : Magnitude)
  | infinite (isNegative : Bool)
  | undefined
deriving DecidableEq

namespace Numeral

/-- The digits in front of a point and behind it, of a base, and the rest. -/
def mantissa (base : Nat) (text : List Char) : List Char × List Char × List Char :=
  let isDigit (c : Char) : Bool := (Text.digit? base c).isSome
  let (whole, rest) := text.span isDigit
  match rest with
  | '.' :: more =>
    let (fraction, behind) := more.span isDigit
    if whole.isEmpty ∧ fraction.isEmpty then ([], [], text) else (whole, fraction, behind)
  | _ => (whole, [], rest)

/-- The power behind a letter, if one is there. -/
def power (letters : List Char) (text : List Char) : Int × List Char :=
  match text with
  | c :: rest =>
    let (digits, behind) := (Text.dropSign rest).span Char.isDigit
    if letters.contains c ∧ !digits.isEmpty then
      let n : Int := (Text.digits? 10 digits).getD 0
      (if rest.head? = some '-' then -n else n, behind)
    else (0, text)
  | [] => (0, [])

/-- The largest power of ten that is looked at. -/
def maxPower : Int := 6000

def startsWord (word : String) (text : List Char) : Bool :=
  word.toList.isPrefixOf (text.map Char.toLower)

/-- The number at the front of a text, with so many binary digits, and the rest of the text. -/
def read? (bits : Nat) (text : List Char) : Option (Numeral × List Char) :=
  let text := text.dropWhile fun c => c = ' ' ∨ ('\t' ≤ c ∧ c ≤ '\r')
  let isNegative := text.head? = some '-'
  let unsigned := Text.dropSign text
  if startsWord "infinity" unsigned then some (infinite isNegative, unsigned.drop 8)
  else if startsWord "inf" unsigned then some (infinite isNegative, unsigned.drop 3)
  else if startsWord "nan" unsigned then some (undefined, unsigned.drop 3)
  else
    let isHex := startsWord "0x" unsigned &&
      ((unsigned.drop 2).head?.any fun c => c == '.' || (Text.digit? 16 c).isSome)
    if isHex then
      let (whole, fraction, rest) := mantissa 16 (unsigned.drop 2)
      let (shift, rest) := power ['p', 'P'] rest
      let digits := (Text.digits? 16 (whole ++ fraction)).getD 0
      let shift := shift - 4 * fraction.length
      let found := if 0 ≤ shift then .ofQuotient bits (digits * Nat.pow 2 shift.toNat) 1
        else .ofQuotient bits digits (Nat.pow 2 (-shift).toNat)
      some (finite isNegative found, rest)
    else
      let (whole, fraction, rest) := mantissa 10 unsigned
      if whole.isEmpty ∧ fraction.isEmpty then none
      else
        let (shift, rest) := power ['e', 'E'] rest
        let digits := (Text.digits? 10 (whole ++ fraction)).getD 0
        let scale := shift - fraction.length
        let size : Int := (Nat.toDigits 10 digits).length + scale
        if digits ≠ 0 ∧ (if bits ≤ 53 then 309 else 4933) < size then
          some (infinite isNegative, rest)
        else if size < -maxPower then some (finite isNegative ⟨0, 0⟩, rest)
        else some (finite isNegative (.ofDecimal bits digits scale), rest)

end Numeral

end BoardDebug.Build
