import BoardDebug.Build.CharClass
import BoardDebug.Build.Escapes
import BoardDebug.Build.Tool.Magnitude
import BoardDebug.Build.Tool.Usage

namespace BoardDebug.Build.Tool

/-- Writes words, with options in front of them that say how. -/
def echo (arguments : List String) : Work Unit := do
  let isOption (word : String) : Bool := match word.toList with
    | '-' :: c :: rest => (c :: rest).all ['n', 'e', 'E'].contains
    | _ => false
  let options := arguments.takeWhile isOption
  let letters := options.flatMap fun word => word.toList.tail
  let text := (" ".intercalate (arguments.drop options.length)).toList
  let isEscaped := (letters.filter (· ≠ 'n')).getLast? = some 'e'
  let (text, isOver) := if isEscaped then Escapes.text true (text.length + 1) text
    else (text, false)
  Work.print (Octets.toBytes (if isOver ∨ letters.contains 'n' then text else text ++ ['\n']))

/-- Writes the same line again and again. -/
def yes (arguments : List String) : Work Unit := do
  let usage ← Manual.usage ⟨"yes", "", [], false, 1⟩ arguments
  let words := if usage.operands.isEmpty then ["y"] else usage.operands
  let line := Octets.bytes (" ".intercalate words ++ "\n")
  Work.print (List.replicate (Files.endless / 8 / line.length + 1) line).flatten

/-- How long a word asks to wait, in nanoseconds. -/
def interval? (word : String) : Option Int := do
  let (number, rest) ← Numeral.read? 64 word.toList
  let unit : Int ← match rest with
    | [] => some 1
    | ['s'] => some 1
    | ['m'] => some 60
    | ['h'] => some 3600
    | ['d'] => some 86400
    | _ => none
  match number with
  | .finite false magnitude => some ((magnitude.scaled 9 : Nat) * unit)
  | .finite true ⟨0, _⟩ => some 0
  | .infinite false => some (1000000000 * 31536000000)
  | _ => none

/-- Waits for a time. -/
def sleep (arguments : List String) : Work Unit := do
  let usage ← Manual.usage ⟨"sleep", "", [], false, 1⟩ arguments
  if usage.operands.isEmpty then misuse "sleep" "missing operand" 1
  let waits ← usage.operands.mapM fun word => do
    match interval? word with
    | some n => return n
    | none =>
      Work.complain ("sleep: invalid time interval " ++ quoted word)
      return -1
  if waits.any (· < 0) then
    Work.write true (Octets.bytes "Try 'sleep --help' for more information.\n")
    Work.quit 1
  Work.changeFiles fun files => { files with time := waits.foldl (· + ·) files.time }

/-- The prime factors of a number, in order. -/
def factors : Nat → Nat → Nat → List Nat
  | 0, _, n => if n < 2 then [] else [n]
  | fuel + 1, d, n =>
    if n < 2 then []
    else if n < d * d then [n]
    else if n % d = 0 then d :: factors fuel d (n / d)
    else factors fuel (if d = 2 then 3 else d + 2) n

/-- Writes numbers with their prime factors. -/
def factor (arguments : List String) : Work Unit := do
  let usage ← Manual.usage ⟨"factor", "h", [("exponents", .nothing, 'h')], false, 1⟩ arguments
  let words ← if usage.operands.isEmpty then do
      let text := Octets.ofBytes
        (← Work.takeInputOr fun fault => "factor: error reading input: " ++ reason fault)
      pure (((text.splitOnP Blank.isSpace).filter (!·.isEmpty)).map String.ofList)
    else pure usage.operands
  words.forM fun word => do
    match Text.digits? 10 (Blank.trim word.toList) with
    | some n =>
      let shown := (factors 2000000 2 n).map fun p => " " ++ toString p
      Work.say (toString n ++ ":" ++ String.join shown ++ "\n")
    | none => Work.complain ("factor: " ++ quoted word ++ " is not a valid positive integer")

/-- A path without slashes at its end. -/
def withoutSlashes (path : String) : String :=
  String.ofList (path.toList.reverse.dropWhile (· = '/')).reverse

/-- The last name in a path. -/
def baseName (path : String) : String :=
  if path.isEmpty then ""
  else
    let kept := withoutSlashes path
    if kept.isEmpty then "/" else (kept.splitOn "/").getLastD ""

/-- The path in front of the last name in one. -/
def directoryName (path : String) : String :=
  let kept := withoutSlashes path
  if kept.isEmpty ∧ path.startsWith "/" then "/"
  else
    let before := "/".intercalate ((kept.splitOn "/").dropLast)
    if !kept.contains '/' then "."
    else if (withoutSlashes before).isEmpty then "/"
    else withoutSlashes before

/-- Writes the last names in paths, perhaps without an ending. -/
def basename (arguments : List String) : Work Unit := do
  let manual : Manual := ⟨"basename", "as:z",
    [("multiple", .nothing, 'a'), ("suffix", .text, 's'), ("zero", .nothing, 'z')], true, 1⟩
  let usage ← manual.usage arguments
  let isMany := usage.hasAny "as"
  let (paths, ending) ← match usage.operands with
    | [] => misuse "basename" "missing operand" 1
    | [path] => pure ([path], (usage.text? 's').getD "")
    | path :: ending :: rest =>
      if isMany then pure (path :: ending :: rest, (usage.text? 's').getD "")
      else
        match rest with
        | [] => pure ([path], ending)
        | extra :: _ => misuse "basename" ("extra operand " ++ quoted extra) 1
  paths.forM fun path => do
    let name := baseName path
    let cut := if name ≠ ending ∧ name.endsWith ending then (name.dropEnd ending.length).toString
      else name
    Work.say (cut ++ (if usage.has 'z' then "\x00" else "\n"))

/-- Writes the paths in front of the last names in some. -/
def dirname (arguments : List String) : Work Unit := do
  let usage ← Manual.usage ⟨"dirname", "z", [("zero", .nothing, 'z')], false, 1⟩ arguments
  if usage.operands.isEmpty then misuse "dirname" "missing operand" 1
  usage.operands.forM fun path =>
    Work.say (directoryName path ++ (if usage.has 'z' then "\x00" else "\n"))

end BoardDebug.Build.Tool
