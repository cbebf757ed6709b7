import BoardDebug.Build.Tool.Usage

namespace BoardDebug.Build.Tool

namespace Split

/-- How the names of pieces go on. -/
structure Naming where
  start : String
  /-- The signs that count. -/
  digits : List Char
  /-- How many signs a name has, if that is always the same. -/
  width : Option Nat
  first : Nat
  ending : String

/-- A number with so many digits; none if it has more. -/
def spelledAs? (digits : List Char) (width n : Nat) : Option String :=
  let base := digits.length
  if Nat.pow base width ≤ n then none
  else
    let chars := (List.range width).map fun i =>
      digits.getD (n / Nat.pow base (width - 1 - i) % base) 'a'
    some (String.ofList chars)

/-- The signs of a name. Names that may grow begin with the last sign as often as they have grown,
and have no other sign of that kind in front. -/
def growing (digits : List Char) : Nat → (width n : Nat) → Option String
  | 0, _, _ => none
  | fuel + 1, width, n =>
    let last := digits.getLastD 'z'
    let count := Nat.pow digits.length (width - 1) * (digits.length - 1)
    if n < count then spelledAs? digits width n
    else (growing digits fuel (width + 1) (n - count)).map (String.singleton last ++ ·)

/-- The name of a piece, counted from zero. -/
def Naming.name? (naming : Naming) (n : Nat) : Option String :=
  let signs := match naming.width with
    | some width => spelledAs? naming.digits width (naming.first + n)
    | none => growing naming.digits (n + 1) 2 (naming.first + n)
  signs.map fun signs => naming.start ++ signs ++ naming.ending

/-- How a file is cut. -/
inductive Cut where
  | lines (count : Nat)
  | bytes (count : Nat)
  /-- As many whole lines as there is room for. -/
  | filled (count : Nat)
  /-- So many pieces of nearly the same size, or only one of them. -/
  | equal (count : Nat) (only : Option Nat)
  /-- So many pieces of whole lines. -/
  | linePieces (count : Nat) (only : Option Nat)
  /-- So many pieces, which get lines in turn. -/
  | turns (count : Nat) (only : Option Nat)

/-- Items in groups of one size, the last of which may be smaller. -/
def groups {α : Type} (size : Nat) : Nat → List α → List (List α)
  | 0, _ => []
  | _, [] => []
  | fuel + 1, items => items.take size :: groups size fuel (items.drop size)

/-- Lines with their ends. -/
def endedLines (mark : UInt8) (bytes : Bytes) : List Bytes :=
  let (lines, isEnded) := splitLines mark bytes
  lines.zipIdx.map fun (line, i) =>
    if i + 1 = lines.length ∧ !isEnded then line else line ++ [mark]

/-- Lines in pieces that are no larger than is allowed. A line that is too long is cut. -/
def fillUp (size : Nat) : Nat → (begun : Bytes) → List Bytes → List Bytes
  | 0, begun, _ => [begun]
  | _, begun, [] => if begun.isEmpty then [] else [begun]
  | fuel + 1, begun, line :: rest =>
    if begun.length + line.length ≤ size then fillUp size fuel (begun ++ line) rest
    else if !begun.isEmpty then begun :: fillUp size fuel [] (line :: rest)
    else line.take size :: fillUp size fuel [] (line.drop size :: rest)

/-- The pieces of a file. -/
def Cut.pieces (cut : Cut) (mark : UInt8) (bytes : Bytes) : List Bytes :=
  let lines := endedLines mark bytes
  match cut with
  | .lines count => (groups count lines.length lines).map List.flatten
  | .bytes count => groups count bytes.length bytes
  | .filled count => fillUp count (2 * bytes.length + 2) [] lines
  | .equal count _ =>
    let (size, extra) := (bytes.length / count, bytes.length % count)
    let start (i : Nat) : Nat := i * size + min i extra
    (List.range count).map fun i => (bytes.take (start (i + 1))).drop (start i)
  | .linePieces count _ =>
    let size := bytes.length / count
    let starts := lines.scanl (fun at' line => at' + line.length) 0
    let piece (start : Nat) : Nat := min (count - 1) (start / max 1 size)
    let placed := (starts.map piece).zip lines
    (List.range count).map fun i => (placed.filter (·.1 == i)).flatMap (·.2)
  | .turns count _ =>
    (List.range count).map fun i => (lines.zipIdx.filter fun (_, n) => n % count = i).flatMap (·.1)

/-- The piece that is asked for alone, counted from one. -/
def Cut.only? : Cut → Option Nat
  | .equal _ only => only
  | .linePieces _ only => only
  | .turns _ only => only
  | _ => none

/-- What a word says about the number of pieces. -/
def chunks (text : String) : Work Cut := do
  let refuse {α : Type} (text : String) : Work α := do
    Work.complain ("split: invalid number of chunks: " ++ quoted text)
    Work.stop
  let number (text : String) : Work Nat :=
    match amount? text.toList with
    | some (n + 1) => return n + 1
    | _ => refuse text
  let both (parts : List String) : Work (Nat × Option Nat) :=
    match parts with
    | [count] => return (← number count, none)
    | [only, count] => return (← number count, some (← number only))
    | _ => refuse text
  match text.splitOn "/" with
  | "l" :: rest =>
    let (count, only) ← both rest
    return .linePieces count only
  | "r" :: rest =>
    let (count, only) ← both rest
    return .turns count only
  | rest =>
    let (count, only) ← both rest
    return .equal count only

def manual : Manual where
  tool := "split"
  letters := "a:b:C:del:n:t:ux"
  words := [("suffix-length", .text, 'a'), ("additional-suffix", .text, 's'),
    ("bytes", .text, 'b'), ("line-bytes", .text, 'C'), ("elide-empty-files", .nothing, 'e'),
    ("lines", .text, 'l'), ("number", .text, 'n'), ("numeric-suffixes", .perhaps, 'D'),
    ("hex-suffixes", .perhaps, 'X'), ("separator", .text, 't'), ("unbuffered", .nothing, 'u'),
    ("verbose", .nothing, 'v')]

/-- How a file shall be cut. -/
def cutOf (usage : Usage) : Work Cut := do
  let size (what text : String) : Work Nat := do
    match amount? text.toList with
    | some (n + 1) => return n + 1
    | _ =>
      Work.complain ("split: invalid number of " ++ what ++ ": " ++ quoted text)
      Work.stop
  match usage.given.filter fun (c, _) => ['b', 'C', 'l', 'n'].contains c with
  | [] => return .lines 1000
  | [('b', text)] => return .bytes (← size "bytes" text)
  | [('C', text)] => return .filled (← size "bytes" text)
  | [('l', text)] => return .lines (← size "lines" text)
  | [(_, text)] => chunks text
  | _ => misuse "split" "cannot split in more than one way" 1

end Split

open Split in
/-- Cuts a file into pieces. -/
def split (arguments : List String) : Work Unit := do
  let spelled := arguments.map fun word => match word.toList with
    | '-' :: c :: rest => if c.isDigit then "-l" ++ String.ofList (c :: rest) else word
    | _ => word
  let usage ← manual.usage spelled
  let cut ← cutOf usage
  let refuse (text : String) : Work Unit := do
    Work.complain ("split: " ++ text)
    Work.stop
  let width ← match usage.text? 'a' with
    | none => pure none
    | some text =>
      match Text.digits? 10 text.toList with
      | some n => pure (if n = 0 then none else some n)
      | none => do
        Work.complain ("split: invalid suffix length: " ++ quoted text)
        Work.stop
  let mark : UInt8 := match (usage.text? 't').map String.toList with
    | some ['\\', '0'] => 0
    | some (c :: _) => .ofNat c.toNat
    | _ => 10
  let kind := usage.lastOf? "dDxX"
  let digits := match kind.map Char.toLower with
    | some 'd' => "0123456789".toList
    | some _ => "0123456789abcdef".toList
    | none => "abcdefghijklmnopqrstuvwxyz".toList
  let first := ((kind.bind usage.text?).bind (·.toNat?)).getD 0
  let isFixed := kind.any Char.isUpper && usage.operands.length ≤ 2 && first != 0
  let naming : Naming :=
    { start := (usage.operands[1]?).getD "x"
      digits
      width := width.orElse fun _ => if isFixed then some 2 else none
      first
      ending := (usage.text? 's').getD "" }
  if let some extra := usage.operands[2]? then misuse "split" ("extra operand " ++ quoted extra) 1
  let path := usage.operands.headD "-"
  match ← Work.contents path with
  | .error .isDirectory => refuse (shown path ++ ": read error: Is a directory")
  | .error fault => refuse ("cannot open " ++ inQuotes path ++ " for reading: " ++ reason fault)
  | .ok bytes =>
    let pieces := cut.pieces mark bytes
    match cut.only? with
    | some n => Work.print ((pieces[n - 1]?).getD [])
    | none =>
      let kept := if usage.has 'e' then pieces.filter (!·.isEmpty) else pieces
      kept.zipIdx.forM fun (piece, i) => do
        match naming.name? i with
        | none => refuse "output file suffixes exhausted"
        | some name =>
          if usage.has 'v' then Work.say ("creating file " ++ inQuotes name ++ "\n")
          match ← Work.store name piece with
          | .ok () => return ()
          | .error fault => refuse (shown name ++ ": " ++ reason fault)

end BoardDebug.Build.Tool
