import BoardDebug.Build.Tool.Printf

namespace BoardDebug.Build.Shell.Record

/-- What a floating point number stands for, in exact terms. -/
def numeral (x : Float) : Numeral :=
  let bits := x.toBits.toNat
  let isNegative := Nat.pow 2 63 ≤ bits
  let exponent := bits / Nat.pow 2 52 % 2048
  let fraction := bits % Nat.pow 2 52
  if exponent = 2047 then (if fraction = 0 then .infinite isNegative else .undefined)
  else if exponent = 0 then .finite isNegative ⟨fraction, -1074⟩
  else .finite isNegative ⟨fraction + Nat.pow 2 52, (exponent : Int) - 1075⟩

/-- The floating point number for something of at most 53 binary digits. -/
def floatOf : Numeral → Float
  | .finite isNegative m =>
    let x := Float.scaleB (Float.ofNat m.mantissa) m.exponent
    if isNegative then -x else x
  | .infinite isNegative => if isNegative then -(1.0 / 0.0) else 1.0 / 0.0
  | .undefined => 0.0 / 0.0

/-- The number at the front of a text; zero if there is none. -/
def leadingNumber (text : String) : Float :=
  match Numeral.read? 53 text.toList with
  | some (n, _) => floatOf n
  | none => 0.0

/-- The number that a text as a whole spells, with blanks around it. -/
def wholeNumber? (text : String) : Option Float :=
  let isBlank (c : Char) : Bool := c == ' ' || ('\t' ≤ c && c ≤ '\r')
  let chars := text.toList.dropWhile isBlank
  let isStart := chars.head?.any fun c => c.isDigit || ['+', '-', '.'].contains c
  if !isStart then none
  else
    match Numeral.read? 53 chars with
    | some (n, rest) => if rest.all isBlank then some (floatOf n) else none
    | none => none

/-- A number without its fraction, if it is finite. -/
def truncated? (x : Float) : Option Int :=
  match numeral x with
  | .finite isNegative m =>
    let (n, d) := m.quotient
    some (if isNegative then -((n / d : Nat) : Int) else (n / d : Nat))
  | _ => none

/-- A number that has no fraction. -/
def integer? (x : Float) : Option Int :=
  (truncated? x).filter fun n => Float.ofInt n == x

/-- The largest number that has no sign and fits into a word. -/
def maxWord : Int := 0xffffffffffffffff

/-- The whole number that a directive with a sign writes. -/
def signedWord (x : Float) : Int :=
  match truncated? x, numeral x with
  | some n, _ => if maxWord ≤ n then maxWord else max n (-0x7fffffffffffffff)
  | none, .infinite false => maxWord
  | none, .infinite true => -0x7fffffffffffffff
  | none, _ => -0x8000000000000000

/-- The whole number that a directive without a sign writes. -/
def unsignedWord (x : Float) : Int :=
  let n := signedWord x
  if n < 0 then n + 0x10000000000000000 else n

/-- What a number with a fraction looks like. -/
def realText (flags : List Char) (width : Nat) (precision : Option Nat) (kind : Char) (x : Float) :
    List Char :=
  match numeral x with
  | .undefined => Printf.fill flags width "-nan".toList
  | n => Printf.real flags width precision kind n

/-- A number as a text: whole ones with all their digits, others as a format says. -/
def numberText (format : String) (x : Float) : String :=
  match integer? x with
  | some n =>
    if -0x8000000000000000 ≤ n ∧ n ≤ maxWord + 1 then toString (min n maxWord) else formatted
  | none => formatted
where
  formatted : String :=
    match format.toList.span (· ≠ '%') with
    | (before, _ :: text) =>
      match Printf.directive true text with
      | (some d, rest) =>
        let size : Printf.Size → Option Nat
          | .given n => some n
          | _ => none
        let kind := if "feEgGF".toList.contains d.kind then d.kind else 'd'
        let number := if kind = 'd' then
            Printf.integer d.flags ((size d.width).getD 0) (size d.precision) 'd' (signedWord x)
          else realText d.flags ((size d.width).getD 0) (size d.precision) kind x
        String.ofList (before ++ number ++ rest)
      | (none, _) => format
    | (_, []) => format

end BoardDebug.Build.Shell.Record

namespace BoardDebug.Build.Shell.Record

/-- What an expression comes to. -/
inductive Value where
  | unset
  | number (x : Float)
  | text (s : String)
  /-- A text that was read, which counts as a number if it spells one. -/
  | read (s : String)

namespace Value

def ofBool (b : Bool) : Value :=
  .number (if b then 1.0 else 0.0)

def ofNat (n : Nat) : Value :=
  .number (Float.ofNat n)

def toNumber : Value → Float
  | unset => 0.0
  | number x => x
  | text s => leadingNumber s
  | read s => leadingNumber s

/-- The text of a value; a format says how numbers with a fraction are written. -/
def toText (format : String) : Value → String
  | unset => ""
  | number x => numberText format x
  | text s => s
  | read s => s

def isTrue : Value → Bool
  | unset => false
  | number x => x != 0.0
  | text s => !s.isEmpty
  | read s =>
    match wholeNumber? s with
    | some x => x != 0.0
    | none => !s.isEmpty

/-- The number that a value counts as if it is compared with another. -/
def measure? : Value → Option Float
  | unset => some 0.0
  | number x => some x
  | text _ => none
  | read s => wholeNumber? s

/-- How two values relate: as numbers if both are, as texts otherwise. -/
def relates (format : String) (sign : String) (a b : Value) : Bool :=
  match a.measure?, b.measure? with
  | some x, some y =>
    match sign with
    | "<" => x < y
    | "<=" => x ≤ y
    | "==" => x == y
    | "!=" => x != y
    | ">" => y < x
    | _ => y ≤ x
  | _, _ =>
    let order := compare (a.toText format) (b.toText format)
    match sign with
    | "<" => order == .lt
    | "<=" => order != .gt
    | "==" => order == .eq
    | "!=" => order != .eq
    | ">" => order == .gt
    | _ => order != .lt

end Value

end BoardDebug.Build.Shell.Record
