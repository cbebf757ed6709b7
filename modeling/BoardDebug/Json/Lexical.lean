import BoardDebug.Text.Number
import BoardDebug.Text.Utf8

namespace BoardDebug.Json

/-- Why a JSON text cannot be read. -/
inductive Fault where
  /-- The text is no JSON. -/
  | grammar
  /-- The text is JSON so far, but not what is asked for. -/
  | content
  /-- The text ends too early. -/
  | truncated
deriving DecidableEq, Repr

abbrev Read (α : Type) := Except Fault (α × Bytes)

def isBlank (byte : UInt8) : Bool :=
  byte == 0x20 || byte == 0x0a || byte == 0x0d || byte == 0x09

def isDigit (byte : UInt8) : Bool :=
  0x30 ≤ byte && byte ≤ 0x39

def skipBlanks (bytes : Bytes) : Bytes :=
  bytes.dropWhile isBlank

/-- The byte that a one-letter escape stands for. -/
def letterEscape? (letter : UInt8) : Option UInt8 :=
  match letter with
  | 0x22 => some 0x22
  | 0x5c => some 0x5c
  | 0x2f => some 0x2f
  | 0x62 => some 0x08
  | 0x66 => some 0x0c
  | 0x6e => some 0x0a
  | 0x72 => some 0x0d
  | 0x74 => some 0x09
  | _ => none

def hexDigit? (byte : UInt8) : Option Nat :=
  Text.hexDigit? (.ofNat byte.toNat)

/-- The number that four hexadecimal digits spell. -/
def hex4? (a b c d : UInt8) : Option Nat := do
  let a ← hexDigit? a
  let b ← hexDigit? b
  let c ← hexDigit? c
  let d ← hexDigit? d
  return ((a * 16 + b) * 16 + c) * 16 + d

def isHighSurrogate (unit : Nat) : Bool :=
  0xd800 ≤ unit && unit ≤ 0xdbff

def isLowSurrogate (unit : Nat) : Bool :=
  0xdc00 ≤ unit && unit ≤ 0xdfff

def codeBytes (code : Nat) : Bytes :=
  String.utf8EncodeChar (.ofNat code)

/-- The code point that two surrogates make. -/
def pairCode (high low : Nat) : Nat :=
  0x10000 + (high - 0xd800) * 0x400 + (low - 0xdc00)

def prepend (front : Bytes) : Read Bytes → Read Bytes
  | .ok (body, rest) => .ok (front ++ body, rest)
  | .error fault => .error fault

/-- Reads what follows an opening quote, up to and with the closing one; the result is the bytes of
the text, which need not be well formed. -/
def stringBody : Bytes → Read Bytes
  | [] => .error .truncated
  | c :: rest =>
    if c = 0x22 then .ok ([], rest)
    else if c = 0x5c then
      match rest with
      | [] => .error .truncated
      | letter :: rest =>
        match letterEscape? letter with
        | some byte => prepend [byte] (stringBody rest)
        | none =>
          if letter = 0x75 then
            match rest with
            | h₁ :: h₂ :: h₃ :: h₄ :: rest =>
              match hex4? h₁ h₂ h₃ h₄ with
              | none => .error .grammar
              | some unit =>
                if isLowSurrogate unit then .error .grammar
                else if isHighSurrogate unit then
                  match rest with
                  | [] => .error .truncated
                  | slash :: rest =>
                    if slash = 0x5c then
                      match rest with
                      | [] => .error .truncated
                      | u :: rest =>
                        if u = 0x75 then
                          match rest with
                          | l₁ :: l₂ :: l₃ :: l₄ :: rest =>
                            match hex4? l₁ l₂ l₃ l₄ with
                            | none => .error .grammar
                            | some low =>
                              if isLowSurrogate low then
                                prepend (codeBytes (pairCode unit low)) (stringBody rest)
                              else .error .grammar
                          | _ => .error .truncated
                        else .error .grammar
                    else .error .grammar
                else prepend (codeBytes unit) (stringBody rest)
            | _ => .error .truncated
          else .error .grammar
    else if c < 0x20 then .error .grammar
    else prepend [c] (stringBody rest)

/-- Reads a text after its opening quote. -/
def stringText (bytes : Bytes) : Read String :=
  match stringBody bytes with
  | .error fault => .error fault
  | .ok (body, rest) =>
    match Utf8.decode? body with
    | some chars => .ok (String.ofList chars, rest)
    | none => .error .grammar

/-- Passes over a text after its opening quote. Only the shape of escapes is looked at. -/
def skipString : Bytes → Except Fault Bytes
  | [] => .error .truncated
  | c :: rest =>
    if c = 0x22 then .ok rest
    else if c = 0x5c then
      match rest with
      | [] => .error .truncated
      | letter :: rest =>
        if (letterEscape? letter).isSome then skipString rest
        else if letter = 0x75 then
          match rest with
          | h₁ :: h₂ :: h₃ :: h₄ :: rest =>
            if (hex4? h₁ h₂ h₃ h₄).isSome then skipString rest else .error .grammar
          | _ => .error .truncated
        else .error .grammar
    else if c < 0x20 then .error .grammar
    else skipString rest

/-- Passes over the rest of a word such as `null`. -/
def keyword : Bytes → Bytes → Except Fault Bytes
  | [], rest => .ok rest
  | _ :: _, [] => .error .truncated
  | expected :: more, byte :: rest =>
    if byte = expected then keyword more rest else .error .grammar

def ull : Bytes := [0x75, 0x6c, 0x6c]

def rue : Bytes := [0x72, 0x75, 0x65]

def alse : Bytes := [0x61, 0x6c, 0x73, 0x65]

/-- A JSON number. -/
inductive Number where
  | natural (n : Nat)
  | negative (n : Nat)
  | fraction (spelling : String)

def digitsValue (digits : Bytes) : Nat :=
  digits.foldl (fun n digit => n * 10 + (digit.toNat - 0x30)) 0

/-- Appends digits to a number as long as it stays below 2^64. The second result counts the digits
that are left out: all from the first that does not fit. -/
def appendDigits (n : Nat) : Bytes → Nat × Nat
  | [] => (n, 0)
  | digit :: rest =>
    let longer := n * 10 + (digit.toNat - 0x30)
    if longer < 0x10000000000000000 then appendDigits longer rest else (n, rest.length + 1)

/-- Whether `n * 10 ^ exponent` is past the range of a double, when `n` and the power are rounded to
doubles before they are multiplied. -/
def pastRange (n : Nat) (exponent : Int) : Bool :=
  if n = 0 || exponent < 0 then false
  else if 308 < exponent then true
  else Decimal.pastLimit (Decimal.round n * Decimal.round (Nat.pow 10 exponent.toNat))

/-- The digits of the fraction after the point, if there is a point. -/
def fractionDigits (bytes : Bytes) : Read Bytes :=
  match bytes with
  | 0x2e :: rest =>
    match rest.span isDigit with
    | ([], []) => .error .truncated
    | ([], _) => .error .grammar
    | (digits, rest) => .ok (digits, rest)
  | rest => .ok ([], rest)

/-- The exponent, if there is one. -/
def exponentPart (bytes : Bytes) : Read (Option Int) :=
  let unsigned (sign : Int) (bytes : Bytes) : Read (Option Int) :=
    match bytes.span isDigit with
    | ([], []) => .error .truncated
    | ([], _) => .error .grammar
    | (digits, rest) => .ok (some (sign * digitsValue digits), rest)
  match bytes with
  | e :: rest =>
    if e = 0x65 ∨ e = 0x45 then
      match rest with
      | 0x2b :: rest => unsigned 1 rest
      | 0x2d :: rest => unsigned (-1) rest
      | rest => unsigned 1 rest
    else .ok (none, bytes)
  | [] => .ok (none, [])

/-- The digits before the point: one zero, or digits that do not start with one. -/
def wholeDigits (bytes : Bytes) : Read Bytes :=
  match bytes with
  | [] => .error .truncated
  | first :: rest =>
    if first = 0x30 then
      match rest with
      | next :: _ => if isDigit next then .error .grammar else .ok ([first], rest)
      | [] => .ok ([first], rest)
    else if isDigit first then
      let (digits, rest) := rest.span isDigit
      .ok (first :: digits, rest)
    else .error .grammar

def spell (bytes : Bytes) : String :=
  String.ofList (bytes.map fun byte => Char.ofNat byte.toNat)

/-- Reads a number after its sign. -/
def number (isNegative : Bool) (bytes : Bytes) : Except Fault (Number × Bytes) := do
  let (whole, afterWhole) ← wholeDigits bytes
  let (decimals, afterPoint) ← fractionDigits afterWhole
  let (exponent, rest) ← exponentPart afterPoint
  let n := digitsValue whole
  if afterWhole.length = rest.length ∧ isNegative = false ∧ n < 0x10000000000000000 then
    return (.natural n, rest)
  else if afterWhole.length = rest.length ∧ isNegative ∧ 0 < n ∧ n ≤ 0x8000000000000000 then
    return (.negative n, rest)
  else if isPast whole decimals (exponent.getD 0) then .error .grammar
  else
    let spelling := spell (bytes.take (bytes.length - rest.length))
    return (.fraction (if isNegative then "-" ++ spelling else spelling), rest)
where
  /-- Digits that do not fit are dropped, before the point for a power of ten each. -/
  isPast (whole decimals : Bytes) (exponent : Int) : Bool :=
    let (n, dropped) := appendDigits 0 whole
    let (n, unread) := appendDigits n decimals
    pastRange n (exponent + dropped - (decimals.length - unread : Nat))

/-- Passes over a number after its sign. -/
def skipNumber (bytes : Bytes) : Except Fault Bytes :=
  let afterExponent (bytes : Bytes) : Except Fault Bytes :=
    match exponentPart bytes with
    | .ok (_, rest) => .ok rest
    | .error _ => .error .grammar
  match wholeDigits bytes with
  | .error _ => .error .grammar
  | .ok (_, rest) =>
    match fractionDigits rest with
    | .error _ => .error .grammar
    | .ok (_, rest) => afterExponent rest

mutual

/-- Passes over any value. -/
def skipValue : Nat → Bytes → Except Fault Bytes
  | 0, _ => .error .truncated
  | fuel + 1, bytes =>
    match skipBlanks bytes with
    | [] => .error .truncated
    | first :: rest =>
      if first = 0x6e then keyword ull rest
      else if first = 0x74 then keyword rue rest
      else if first = 0x66 then keyword alse rest
      else if first = 0x2d then skipNumber rest
      else if isDigit first then skipNumber (first :: rest)
      else if first = 0x22 then skipString rest
      else if first = 0x5b then
        match skipBlanks rest with
        | [] => .error .truncated
        | next :: after => if next = 0x5d then .ok after else skipItems fuel (next :: after)
      else if first = 0x7b then
        match skipBlanks rest with
        | [] => .error .truncated
        | next :: after => if next = 0x7d then .ok after else skipMembers fuel (next :: after)
      else .error .grammar

/-- Passes over the items of a list and its closing bracket. -/
def skipItems : Nat → Bytes → Except Fault Bytes
  | 0, _ => .error .truncated
  | fuel + 1, bytes =>
    match skipValue fuel bytes with
    | .error fault => .error fault
    | .ok rest =>
      match skipBlanks rest with
      | [] => .error .truncated
      | next :: rest =>
        if next = 0x2c then skipItems fuel rest
        else if next = 0x5d then .ok rest
        else .error .grammar

/-- Passes over the members of an object and its closing brace. -/
def skipMembers : Nat → Bytes → Except Fault Bytes
  | 0, _ => .error .truncated
  | fuel + 1, bytes =>
    match skipBlanks bytes with
    | [] => .error .truncated
    | first :: rest =>
      if first = 0x22 then
        match skipString rest with
        | .error fault => .error fault
        | .ok rest =>
          match skipBlanks rest with
          | [] => .error .truncated
          | colon :: rest =>
            if colon = 0x3a then
              match skipValue fuel rest with
              | .error fault => .error fault
              | .ok rest =>
                match skipBlanks rest with
                | [] => .error .truncated
                | next :: rest =>
                  if next = 0x2c then skipMembers fuel rest
                  else if next = 0x7d then .ok rest
                  else .error .grammar
            else .error .grammar
      else .error .grammar

end

/-- Passes over one value at the start of a text. A value takes at most two steps a byte. -/
def skip (bytes : Bytes) : Except Fault Bytes :=
  skipValue (2 * bytes.length + 2) bytes

end BoardDebug.Json
