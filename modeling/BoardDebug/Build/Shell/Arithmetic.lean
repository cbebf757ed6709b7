import BoardDebug.Build.CharClass
import BoardDebug.Build.Shell.Word

namespace BoardDebug.Build.Shell.Arithmetic

/-- A parameter, or an item of a list. -/
abbrev Target := List Char × Option Int

/-- What an expression does to parameters: what they stand for, and what it sets. -/
structure Bindings where
  value : Target → List Char
  assigned : List (Target × Int)

/-- Why an expression has no value. -/
inductive Fault where
  /-- It goes wrong in the way that is said, at what is left from its last sign on. -/
  | expression (text : String) (rest : List Char)
  /-- A parameter in it is no number. -/
  | number (spelling : List Char)

structure Reader where
  rest : List Char
  bindings : Bindings
  dialect : Dialect
  /-- What there was from the last sign or number on. -/
  last : List Char := []
  /-- Whether what is read has no value and does nothing. -/
  isIdle : Bool := false

/-- Reads a part of an expression and gives it a value. -/
abbrev Reading := StateT Reader (Except Fault)

/-- Numbers have 64 bits. -/
def wrap (n : Int) : Int :=
  n.bmod 0x10000000000000000

/-- A number with base sixteen, eight or ten, and what follows its digits. -/
def number (text : List Char) : Int × List Char :=
  let (base, digits) := match text with
    | '0' :: 'x' :: digits => (16, digits)
    | '0' :: 'X' :: digits => (16, digits)
    | '0' :: digits => (8, '0' :: digits)
    | digits => (10, digits)
  let (digits, rest) := digits.span fun c => (Text.digit? base c).isSome
  ((Text.digits? base digits).getD 0, rest)

/-- The nearest number that can be had. -/
def clamp (n : Int) : Int :=
  max (-0x8000000000000000) (min n 0x7fffffffffffffff)

/-- The value of what a parameter stands for. -/
def numberOf (text : List Char) : Except Fault Int :=
  let said := Blank.trim text
  let (isNegative, digits) := match said with
    | '-' :: digits => (true, digits)
    | '+' :: digits => (false, digits)
    | digits => (false, digits)
  let (n, rest) := number digits
  if said.isEmpty then .ok 0
  else if rest.isEmpty ∧ !digits.isEmpty then .ok (clamp (if isNegative then -n else n))
  else .error (.number text)

def fail {α : Type} (text : String) : Reading α := do
  throw (.expression text (← get).last)

def isBash : Reading Bool := do
  return (← get).dialect == .bash

/-- The value of a digit in a base of up to 64. -/
def wideDigit? (base : Nat) (c : Char) : Option Nat :=
  let value := if c.isDigit then some (c.toNat - 48)
    else if c.isLower then some (c.toNat - 87)
    else if c.isUpper then some (if base ≤ 36 then c.toNat - 55 else c.toNat - 29)
    else if c = '@' then some 62
    else if c = '_' then some 63
    else none
  value.filter (· < base)

/-- A number whose base may be given in front of it. -/
def takeNumber : Reading Int := do
  let r ← get
  let word := r.rest.takeWhile fun c => isNameChar c || c == '@' || c == '#'
  let (base, digits) := word.span (· ≠ '#')
  match r.dialect, digits, Text.digits? 10 base with
  | .bash, '#' :: digits, some base =>
    set { r with rest := r.rest.drop word.length, last := r.rest }
    if base < 2 ∨ 64 < base then fail "invalid arithmetic base"
    else
      digits.foldlM
        (fun n c => do
          match wideDigit? base c with
          | some digit => return wrap (n * base + digit)
          | none => fail "value too great for base")
        0
  | dialect, _, _ =>
    let (n, rest) := number r.rest
    set { r with rest, last := r.rest }
    if dialect = .bash ∧ rest.head?.any isNameChar then
      set { r with rest, last := word }
      fail "value too great for base"
    else return if dialect = .bash then wrap n else clamp n

def skipSpaces : Reading Unit :=
  modify fun r => { r with rest := r.rest.dropWhile fun c => c = ' ' ∨ c = '\t' ∨ c = '\n' }

/-- The signs between two values, the longest first, with how tightly they bind. -/
def signs : Dialect → List (String × Nat)
  | .sh => usual
  | .bash => ("**", 11) :: usual
where
  usual : List (String × Nat) :=
    [("<<", 8), (">>", 8), ("<=", 7), (">=", 7), ("==", 6), ("!=", 6), ("&&", 2), ("||", 1),
      ("<", 7), (">", 7), ("&", 5), ("^", 4), ("|", 3), ("+", 9), ("-", 9), ("*", 10), ("/", 10),
      ("%", 10)]

/-- The sign that comes next, unless it sets a parameter. -/
def sign? (dialect : Dialect) (text : List Char) : Option (String × Nat) :=
  match (signs dialect).find? fun (sign, _) => sign.toList.isPrefixOf text with
  | some (sign, tightness) =>
    let stands := ["<=", ">=", "==", "!=", "&&", "||"].contains sign
    let sets := text[sign.length]? = some '=' ∧ !stands
    if sets then none else some (sign, tightness)
  | none => none

def ofBool (b : Bool) : Int :=
  if b then 1 else 0

/-- Reads something, which has no value and does nothing if that is so around it, or here. -/
def idle (isIdle : Bool) (act : Reading Int) : Reading Int := do
  let before := (← get).isIdle
  modify fun r => { r with isIdle := before || isIdle }
  let n ← act
  modify fun r => { r with isIdle := before }
  return n

/-- The value of two values with a sign between them. -/
def apply (sign : String) (a b : Int) : Reading Int := do
  if (← get).isIdle then return 0
  else
    match sign with
    | "+" => return wrap (a + b)
    | "-" => return wrap (a - b)
    | "*" => return wrap (a * b)
    | "**" =>
      if b < 0 then fail "exponent less than 0"
      else return power a b.toNat
    | "/" => if b = 0 then fail "division by zero" else return wrap (a.tdiv b)
    | "%" => if b = 0 then fail "division by zero" else return a.tmod b
    | "<<" => return wrap (a * Nat.pow 2 (b.emod 64).toNat)
    | ">>" => return a.fdiv (Nat.pow 2 (b.emod 64).toNat)
    | "<" => return ofBool (a < b)
    | ">" => return ofBool (b < a)
    | "<=" => return ofBool (a ≤ b)
    | ">=" => return ofBool (b ≤ a)
    | "==" => return ofBool (a == b)
    | "!=" => return ofBool (a != b)
    | "&" => return bits (· &&& ·) a b
    | "|" => return bits (· ||| ·) a b
    | "^" => return bits (· ^^^ ·) a b
    | "&&" => return ofBool (a != 0 && b != 0)
    | _ => return ofBool (a != 0 || b != 0)
where
  bits (op : UInt64 → UInt64 → UInt64) (a b : Int) : Int :=
    let word (n : Int) : UInt64 := .ofNat (n.emod 0x10000000000000000).toNat
    wrap (op (word a) (word b)).toNat
  power (a : Int) (count : Nat) : Int :=
    let digits := (Nat.toDigits 2 count).map (· == '1')
    digits.foldl (fun n digit => wrap (n * n * (if digit then a else 1))) 1

/-- Takes a text if it comes next. -/
def eat (text : String) : Reading Bool := do
  skipSpaces
  let r ← get
  if text.toList.isPrefixOf r.rest then
    set { r with rest := r.rest.drop text.length, last := r.rest }
    return true
  else return false

/-- Takes a text that only one of the languages knows, if it comes next. -/
def eatRich (text : String) : Reading Bool := do
  if ← isBash then eat text else return false

/-- The name of a parameter, if one comes next. -/
def name? : Reading (Option (List Char)) := do
  skipSpaces
  let r ← get
  let (name, rest) := r.rest.span isNameChar
  if name.head?.any isNameStart then
    set { r with rest, last := r.rest }
    return some name
  else return none

/-- The signs that set a parameter, with the sign that is applied to its value before. -/
def settings : List (String × String) :=
  ["<<", ">>", "+", "-", "*", "/", "%", "&", "|", "^"].map fun sign => (sign ++ "=", sign)

/-- How the texts of parameters become values. -/
structure Inner where
  /-- Reads a whole expression in brackets, or one that a parameter stands for. -/
  whole : Reading Int
  /-- The expression in a text of its own. -/
  nested : List Char → Reading Int

def valueOf (inner : Inner) (target : Target) : Reading Int := do
  let r ← get
  let bindings := r.bindings
  if r.isIdle then return 0
  else
    match bindings.assigned.find? fun (t, _) => t = target with
    | some (_, n) => return n
    | none =>
      let text := bindings.value target
      match r.dialect, numberOf text with
      | .sh, .ok n => return n
      | .sh, .error fault => throw fault
      | .bash, _ => if (Blank.trim text).isEmpty then return 0 else inner.nested text

def assign (target : Target) (n : Int) : Reading Int := do
  modify fun r =>
    if r.isIdle then r
    else { r with bindings := { r.bindings with assigned := (target, n) :: r.bindings.assigned } }
  return n

/-- The sign that sets a parameter, if one comes next. -/
def setting? : Reading (Option (Option String)) := do
  skipSpaces
  let text := (← get).rest
  if text.head? = some '=' ∧ text[1]? ≠ some '=' then
    modify fun r => { r with rest := r.rest.drop 1 }
    return some none
  else
    match settings.find? fun (spelled, _) => spelled.toList.isPrefixOf text with
    | some (spelled, sign) =>
      modify fun r => { r with rest := r.rest.drop spelled.length }
      return some (some sign)
    | none => return none

/-- The parameter that comes next, with the number of an item behind it. -/
def target? (inner : Inner) : Reading (Option Target) := do
  match ← name? with
  | none => return none
  | some name =>
    if (← isBash) ∧ (← get).rest.head? = some '[' then
      let _ ← eat "["
      let n ← inner.whole
      if ← eat "]" then return some (name, some n) else fail "bad array subscript"
    else return some (name, none)

/-- A value with signs that bind more tightly than `least`. -/
def operands (inner : Inner) : Nat → Nat → Reading Int
  | 0, _ => fail "expecting primary"
  | fuel + 1, least => do
    let first ← primary fuel
    more least first fuel
where
  change (step : Int) (isBefore : Bool) (target : Target) : Reading Int := do
    let n ← valueOf inner target
    let changed ← assign target (wrap (n + step))
    return if isBefore then changed else n
  step? (isBefore : Bool) (sign : String) (step : Int) : Reading (Option Int) := do
    let before ← get
    if ← eatRich sign then
      match ← target? inner with
      | some target => return some (← change step isBefore target)
      | none =>
        set before
        return none
    else return none
  primary (fuel : Nat) : Reading Int := do
    match ← step? true "++" 1 with
    | some n => return n
    | none =>
      match ← step? true "--" (-1) with
      | some n => return n
      | none => signed fuel
  signed (fuel : Nat) : Reading Int := do
    if ← eat "-" then return wrap (-(← operands inner fuel 11))
    else if ← eat "+" then operands inner fuel 11
    else if ← eat "!" then return ofBool ((← operands inner fuel 11) == 0)
    else if ← eat "~" then return wrap (-(← operands inner fuel 11) - 1)
    else if ← eat "(" then
      let n ← inner.whole
      if ← eat ")" then return n else fail "expecting ')'"
    else
      match ← target? inner with
      | some target =>
        if ← eatRich "++" then change 1 false target
        else if ← eatRich "--" then change (-1) false target
        else valueOf inner target
      | none =>
        if (← get).rest.head?.any Char.isDigit then takeNumber
        else fail "expecting primary"
  more (least : Nat) (first : Int) : Nat → Reading Int
    | 0 => return first
    | fuel + 1 => do
      skipSpaces
      let r ← get
      match sign? r.dialect r.rest with
      | some (sign, tightness) =>
        if least < tightness then
          set { r with rest := r.rest.drop sign.length, last := r.rest }
          let isKnown := sign = "&&" && first == 0 || sign = "||" && first != 0
          let least' := if sign = "**" then tightness - 1 else tightness
          let second ← idle isKnown (operands inner fuel least')
          more least (← apply sign first second) fuel
        else return first
      | none => return first

/-- The parameter with a sign behind it that sets it, if they come next. -/
def set? (inner : Inner) : Reading (Option (Target × Option String)) := do
  let before ← get
  match ← target? inner with
  | some target =>
    match ← setting? with
    | some sign => return some (target, sign)
    | none =>
      set before
      return none
  | none => return none

/-- Expressions with commas between them, of which the last one counts. -/
def list (one : Reading Int) : Nat → Reading Int
  | 0 => one
  | fuel + 1 => do
    let n ← one
    if ← eatRich "," then list one fuel else return n

/-- An expression: a value, a choice between two, or a parameter that is set to one if that
`maySet`. -/
def expression : Nat → (maySet : Bool) → Reading Int
  | 0, _ => fail "expecting primary"
  | fuel + 1, maySet => do
    let inner : Inner :=
      { whole := list (expression fuel true) fuel
        nested := fun text => do
          let r ← get
          set { r with rest := text }
          let n ← expression fuel true
          skipSpaces
          if (← get).rest.isEmpty then
            modify fun after => { after with rest := r.rest, last := r.last }
            return n
          else fail "expecting EOF" }
    match ← if maySet then set? inner else pure none with
    | some (target, sign) =>
      let n ← expression fuel true
      match sign with
      | some sign => assign target (← apply sign (← valueOf inner target) n)
      | none => assign target n
    | none =>
      let condition ← operands inner (fuel + 1) 0
      if ← eat "?" then
        let yes ← idle (condition == 0) (expression fuel true)
        if ← eat ":" then
          let no ← idle (condition != 0) (expression fuel false)
          return if condition ≠ 0 then yes else no
        else fail "expecting ':'"
      else return condition

/-- The value of an expression as a whole, and the parameters that it sets. -/
def evaluate (dialect : Dialect) (value : Target → List Char) (text : List Char) :
    Except Fault (Int × List (Target × Int)) := do
  let fuel := text.length + (if dialect = .bash then 200 else 2)
  let whole : Reading Int := do
    let n ← list (expression fuel true) fuel
    skipSpaces
    if (← get).rest.isEmpty then return n
    else
      modify fun r => { r with last := r.rest }
      fail "expecting EOF"
  let (n, r) ← whole.run { rest := text, bindings := ⟨value, []⟩, dialect }
  return (n, r.bindings.assigned)

end BoardDebug.Build.Shell.Arithmetic
