import BoardDebug.Build.CharClass
import BoardDebug.Build.Tool.Printf
import BoardDebug.Build.Tool.Usage

namespace BoardDebug.Build.Tool

/-- A decimal number: the number that its digits spell, and how many of them are a fraction. -/
structure Decimal where
  value : Int
  places : Nat

namespace Decimal

def of? (text : String) : Option Decimal :=
  let text := text.toList.dropWhile Blank.isSpace
  let isNegative := text.head? == some '-'
  let digits := Text.dropSign text
  let (isHex, inner) := match digits with
    | '0' :: 'x' :: rest => (true, rest)
    | '0' :: 'X' :: rest => (true, rest)
    | _ => (false, digits)
  let signed (n : Nat) : Int := if isNegative then -n else n
  if isHex then (Text.digits? 16 inner).map fun n => ⟨signed n, 0⟩
  else if digits.head?.any Text.isSign then none
  else (Text.decimal? digits).map fun (n, power) =>
    if 0 ≤ power then ⟨signed (n * Nat.pow 10 power.toNat), 0⟩
    else ⟨signed n, (-power).toNat⟩

/-- The number with more places, without the point. -/
def scaled (d : Decimal) (places : Nat) : Int :=
  d.value * Nat.pow 10 (places - d.places)

/-- A number with a fraction of so many places. -/
def shown (places : Nat) (n : Int) : String :=
  (if n < 0 then "-" else "") ++ String.ofList (Magnitude.pointed places false n.natAbs)

end Decimal

/-- What is wrong with a format for numbers, which has to have one directive in it. -/
def formatFault? (format : String) : Option String :=
  go (format.length + 1) format.toList
where
  name : String := "format " ++ quoted format
  go : Nat → List Char → Option String
    | 0, _ => none
    | _, [] => some (name ++ " has no % directive")
    | fuel + 1, '%' :: '%' :: rest => go fuel rest
    | fuel + 1, '%' :: rest =>
      match Printf.directive false rest with
      | (some d, rest) =>
        if ['a', 'e', 'f', 'g', 'A', 'E', 'F', 'G'].contains d.kind then more fuel rest
        else some (name ++ " has unknown %" ++ String.singleton d.kind ++ " directive")
      | (none, _) => some (name ++ " ends in %")
    | fuel + 1, _ :: rest => go fuel rest
  more : Nat → List Char → Option String
    | 0, _ => none
    | _, [] => none
    | fuel + 1, '%' :: '%' :: rest => more fuel rest
    | _, '%' :: _ => some (name ++ " has too many % directives")
    | fuel + 1, _ :: rest => more fuel rest

/-- More numbers than are ever written. -/
def maxNumbers : Nat := 1000000

/-- Writes the numbers from one to another. -/
def seq (arguments : List String) : Work Unit := do
  let manual : Manual := ⟨"seq", "f:s:w",
    [("equal-width", .nothing, 'w'), ("format", .text, 'f'), ("separator", .text, 's')], true, 1⟩
  let isNumber (word : String) : Bool := match word.toList with
    | '-' :: c :: _ => c.isDigit || c == '.'
    | _ => false
  let front := arguments.takeWhile (!isNumber ·)
  let usage ← manual.usage front
  let words := usage.operands ++ arguments.drop front.length
  let numbers ← words.mapM fun word =>
    match Decimal.of? word with
    | some n => return n
    | none => misuse "seq" ("invalid floating point argument: " ++ quoted word) 1
  let (first, step, last) ← match numbers with
    | [last] => pure (⟨1, 0⟩, ⟨1, 0⟩, last)
    | [first, last] => pure (first, ⟨1, 0⟩, last)
    | [first, step, last] => pure (first, step, last)
    | [] => misuse "seq" "missing operand" 1
    | _ => misuse "seq" ("extra operand " ++ quoted (words[3]?.getD "")) 1
  if step.value = 0 then
    misuse "seq" ("invalid Zero increment value: " ++ quoted (words[1]?.getD "")) 1
  match (usage.text? 'f').bind formatFault? with
  | some text =>
    Work.complain ("seq: " ++ text)
    Work.stop
  | none =>
    let places := max first.places step.places
    let fine := max places last.places
    let (start, stride, stop) := (first.scaled fine, step.scaled fine, last.scaled fine)
    let isOver : Bool := if 0 < stride then stop < start else start < stop
    let count := if isOver then 0 else (stop - start).natAbs / stride.natAbs + 1
    let scale : Int := Nat.pow 10 (fine - places)
    let values := (List.range (min count maxNumbers)).map fun (i : Nat) =>
      (start + i * stride) / scale
    let width := if usage.has 'w'
      then max (Decimal.shown places (start / scale)).length
        (Decimal.shown places (stop / scale)).length
      else 0
    let shown (n : Int) : String :=
      match usage.text? 'f' with
      | some format =>
        String.ofList (Printf.run Printf.program 0 format [Decimal.shown places n]).text
      | none =>
        let sign := if n < 0 then "-" else ""
        let digits := Magnitude.pointed places false n.natAbs
        sign ++ String.ofList (Text.zeroFill (width - sign.length) digits)
    if !values.isEmpty then
      Work.say (((usage.text? 's').getD "\n").intercalate (values.map shown) ++ "\n")

end BoardDebug.Build.Tool
