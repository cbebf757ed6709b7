import BoardDebug.Build.Regex.Reading
import BoardDebug.Build.Tool.Usage

namespace BoardDebug.Build.Tool

/-- Why an expression has no value. -/
structure ExpressionFault where
  text : String

namespace Expression

abbrev Result := Except ExpressionFault (String × List String)

def wording {α : Type} (text : String) : Except ExpressionFault α :=
  .error ⟨"syntax error: " ++ text⟩

def integer? (text : String) : Option Int :=
  match text.toList with
  | '-' :: digits => (Text.digits? 10 digits).map fun n => -(n : Int)
  | digits => (Text.digits? 10 digits).map fun n => (n : Int)

def isNull (text : String) : Bool :=
  text.isEmpty || (integer? text).any (· == 0)

/-- The signs between two values, by how tightly they bind. -/
def signs : Nat → List String
  | 0 => ["|"]
  | 1 => ["&"]
  | 2 => ["<", "<=", "=", "==", "!=", ">=", ">"]
  | 3 => ["+", "-"]
  | 4 => ["*", "/", "%"]
  | _ => [":"]

/-- The part of a text that fits a description from its beginning on: the first part in brackets,
or how long it is. -/
def fit (text pattern : String) : Except ExpressionFault String :=
  match Regex.read .basic pattern.toList with
  | .error fault => .error ⟨fault.message⟩
  | .ok (regex, groups) =>
    let text := text.toList
    let found := regex.foundAt? {} text ⟨[], text, 0, []⟩
    match found with
    | some found =>
      if groups = 0 then .ok (toString found.stop)
      else .ok (String.ofList (found.text text 1))
    | none => .ok (if groups = 0 then "0" else "")

def compare (sign a b : String) : String :=
  let order : Ordering := match integer? a, integer? b with
    | some a, some b => Ord.compare a b
    | _, _ => Ord.compare a b
  let holds : Bool := match sign with
    | "<" => order == .lt
    | "<=" => order != .gt
    | ">" => order == .gt
    | ">=" => order != .lt
    | "!=" => order != .eq
    | _ => order == .eq
  if holds then "1" else "0"

def apply (sign a b : String) : Except ExpressionFault String :=
  match sign with
  | "|" => .ok (if !isNull a then a else if !isNull b then b else "0")
  | "&" => .ok (if isNull a ∨ isNull b then "0" else a)
  | ":" => fit a b
  | sign =>
    if (signs 2).contains sign then .ok (compare sign a b)
    else
      match integer? a, integer? b with
      | some a, some b =>
        match sign with
        | "+" => .ok (toString (a + b))
        | "-" => .ok (toString (a - b))
        | "*" => .ok (toString (a * b))
        | sign =>
          if b = 0 then .error ⟨"division by zero"⟩
          else .ok (toString (if sign = "/" then a.tdiv b else a.tmod b))
      | _, _ => .error ⟨"non-integer argument"⟩

/-- Reads the value of words behind a given one, up to where signs bind less tightly. -/
abbrev Inner := (level : Nat) → (last : String) → List String → Result

/-- A value with signs of one kind behind it. -/
def more (inner : Inner) (level : Nat) : Nat → (first : String) → List String → Result
  | 0, first, words => .ok (first, words)
  | count + 1, first, words =>
    match words with
    | sign :: rest =>
      if (signs level).contains sign then do
        let (second, rest) ← inner (level + 1) sign rest
        more inner level count (← apply sign first second) rest
      else .ok (first, words)
    | [] => .ok (first, [])

/-- The values that a word asks for, which has to be the first of some. -/
def operands (inner : Inner) : Nat → (last : String) → List String →
    Except ExpressionFault (List String × List String)
  | 0, _, words => .ok ([], words)
  | count + 1, last, words => do
    let (first, rest) ← inner 6 last words
    let (others, rest) ← operands inner count (words.headD "") rest
    return (first :: others, rest)

/-- A part of a text, from a place on. -/
def part (text start count : String) : String :=
  match integer? start, integer? count with
  | some start, some count =>
    if start < 1 ∨ count < 1 then ""
    else String.ofList ((text.toList.drop (start.toNat - 1)).take count.toNat)
  | _, _ => ""

/-- A single value. -/
def primary (inner : Inner) (last : String) (words : List String) : Result :=
  match words with
  | [] => wording ("missing argument after " ++ quoted last)
  | "(" :: rest => do
    let (found, rest) ← inner 0 "(" rest
    match rest with
    | ")" :: rest => return (found, rest)
    | other :: _ => wording ("expecting ')' instead of " ++ quoted other)
    | [] => wording ("expecting ')' after " ++ quoted (words.getLastD ""))
  | ")" :: _ => wording "unexpected ')'"
  | "+" :: word :: rest => .ok (word, rest)
  | "+" :: [] => wording "missing argument after '+'"
  | word :: [] => .ok (word, [])
  | word :: rest => do
    let count := match word with
      | "length" => 1
      | "match" => 2
      | "index" => 2
      | "substr" => 3
      | _ => 0
    let (found, others) ← operands inner count word rest
    match word, found with
    | "length", [text] => return (toString text.length, others)
    | "match", [text, pattern] => return (← fit text pattern, others)
    | "index", [text, chars] =>
      let place := text.toList.findIdx? chars.toList.contains
      return (toString ((place.map (· + 1)).getD 0), others)
    | "substr", [text, start, count] => return (part text start count, others)
    | word, _ => return (word, rest)

def value : Nat → Inner
  | 0, _, _, words => .ok ("", words)
  | fuel + 1, level, last, words =>
    if level < 6 then do
      let (first, rest) ← value fuel (level + 1) last words
      more (value fuel) level fuel first rest
    else primary (value fuel) last words

end Expression

/-- Writes the value of an expression. -/
def expr (arguments : List String) : Work Unit := do
  let words := if arguments.head? = some "--" then arguments.tail else arguments
  if words.isEmpty then misuse "expr" "missing operand" 2
  let fault (found : ExpressionFault) : Work Unit := do
    Work.complain ("expr: " ++ found.text)
    Work.setStatus 2
  match Expression.value (8 * words.length + 20) 0 "" words with
  | .error found => fault found
  | .ok (text, []) =>
    Work.say (text ++ "\n")
    Work.setStatus (if Expression.isNull text then 1 else 0)
  | .ok (_, extra :: _) => fault ⟨"syntax error: unexpected argument " ++ quoted extra⟩

end BoardDebug.Build.Tool
