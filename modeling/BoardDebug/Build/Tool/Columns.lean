import BoardDebug.Build.Tool.Usage

namespace BoardDebug.Build.Tool

/-- Numbers from one to another; without an end they go on. -/
abbrev Spans := List (Nat × Option Nat)

namespace Spans

def contains (spans : Spans) (n : Nat) : Bool :=
  spans.any fun (first, last) => first ≤ n && last.all (n ≤ ·)

/-- The spans that a list spells; `unit` is what they count. -/
def of? (isField : Bool) (text : String) : Except String Spans :=
  (text.toList.splitOnP fun c => c = ',' ∨ c = ' ' ∨ c = '\t').mapM span
where
  zero : String :=
    if isField then "fields are numbered from 1"
    else "byte/character positions are numbered from 1"
  invalid (text : List Char) : String :=
    "invalid " ++ (if isField then "field value " else "byte or character position ") ++
      quoted (String.ofList text)
  number (whole digits : List Char) : Except String Nat :=
    match Text.digits? 10 digits with
    | some 0 => .error zero
    | some n => .ok n
    | none => .error (invalid whole)
  span (text : List Char) : Except String (Nat × Option Nat) := do
    match text.span (· ≠ '-') with
    | ([], []) => throw zero
    | (digits, []) =>
      let n ← number text digits
      return (n, some n)
    | ([], ['-']) => throw "invalid range with no endpoint: -"
    | (first, _ :: last) =>
      let low ← if first.isEmpty then pure 1 else number first first
      if last.isEmpty then return (low, none)
      else
        let high ← number last last
        if high < low then throw "invalid decreasing range"
        return (low, some high)

end Spans

/-- The kept pieces of a line, those next to each other joined. -/
def keptRuns (isKept : Nat → Bool) (line : Bytes) : List Bytes :=
  let runs := line.zipIdx.foldl
    (fun (runs : List (Nat × Bytes)) (byte, i) =>
      if !isKept (i + 1) then runs
      else
        match runs with
        | (last, run) :: others =>
          if last + 1 = i then (i, byte :: run) :: others else (i, [byte]) :: (last, run) :: others
        | [] => [(i, [byte])])
    []
  runs.reverse.map fun (_, run) => run.reverse

def cutManual : Manual where
  tool := "cut"
  letters := "b:c:f:d:nsz"
  words := [("bytes", .text, 'b'), ("characters", .text, 'c'), ("fields", .text, 'f'),
    ("delimiter", .text, 'd'), ("only-delimited", .nothing, 's'), ("complement", .nothing, '!'),
    ("output-delimiter", .text, 'o'), ("zero-terminated", .nothing, 'z')]

/-- Writes parts of lines. -/
def cut (arguments : List String) : Work Unit := do
  let usage ← cutManual.usage arguments
  let refuse {α : Type} (text : String) : Work α := misuse "cut" text 1
  let (letter, list) ← match usage.given.filter fun (c, _) => ['b', 'c', 'f'].contains c with
    | [] => refuse "you must specify a list of bytes, characters, or fields"
    | [given] => pure given
    | _ => refuse "only one list may be specified"
  let isField := letter == 'f'
  let delimiter := usage.text? 'd'
  if delimiter.any fun d => 1 < d.length then
    refuse "the delimiter must be a single character"
  if delimiter.isSome ∧ !isField then
    refuse "an input delimiter may be specified only when operating on fields"
  if usage.has 's' ∧ !isField then
    refuse "suppressing non-delimited lines makes sense\n\tonly when operating on fields"
  match Spans.of? isField list with
  | .error text => refuse text
  | .ok spans =>
    let isKept (n : Nat) : Bool := spans.contains n != usage.has '!'
    let ending : UInt8 := if usage.has 'z' then 0 else 10
    let mark : UInt8 := match delimiter with
      | some text => (Octets.bytes text).headD 0
      | none => 9
    let between := usage.text? 'o'
    let fieldLine (line : Bytes) : Option Bytes :=
      if !line.contains mark then (if usage.has 's' then none else some line)
      else
        let fields := (line.splitOn mark).zipIdx.filter fun (_, i) => isKept (i + 1)
        let join := (between.map Octets.bytes).getD [mark]
        some ((fields.map (·.1)).intersperse join).flatten
    let plainLine (line : Bytes) : Option Bytes :=
      match between with
      | some text => some ((keptRuns isKept line).intersperse (Octets.bytes text)).flatten
      | none => some ((line.zipIdx.filter fun (_, i) => isKept (i + 1)).map (·.1))
    onContents (fun path fault => "cut: " ++ shown path ++ ": " ++ reason fault)
      (fun _ bytes =>
        let (lines, _) := splitLines ending bytes
        Work.print (joinLines ending (lines.filterMap (if isField then fieldLine else plainLine))
          true))
      usage.operands

/-- The marks that a text spells, which are used one after the other. -/
def marks : List Char → List Bytes
  | '\\' :: 'n' :: rest => [10] :: marks rest
  | '\\' :: 't' :: rest => [9] :: marks rest
  | '\\' :: '0' :: rest => [] :: marks rest
  | '\\' :: '\\' :: rest => [92] :: marks rest
  | c :: rest => Octets.toBytes [c] :: marks rest
  | [] => []

/-- Pieces with marks between them, again and again. -/
def joinMarked (marks : List Bytes) (pieces : List Bytes) : Bytes :=
  let count := max 1 marks.length
  pieces.zipIdx.flatMap fun (piece, i) =>
    (if i = 0 then [] else (marks[(i - 1) % count]?).getD []) ++ piece

/-- The lines of columns side by side. -/
def sideBySide (marks : List Bytes) : Nat → List (List Bytes) → List Bytes
  | 0, _ => []
  | rows + 1, columns =>
    joinMarked marks (columns.map (·.headD [])) :: sideBySide marks rows (columns.map List.tail)

/-- The columns of paths, in which lines that are there to be read are shared out. -/
def shareOut (count : Nat) (lines : List Bytes) (column : Nat) : List Bytes :=
  (lines.zipIdx.filter fun (_, i) => i % count = column).map (·.1)

/-- Writes the lines of files side by side. -/
def paste (arguments : List String) : Work Unit := do
  let manual : Manual := ⟨"paste", "d:sz",
    [("delimiters", .text, 'd'), ("serial", .nothing, 's'), ("zero-terminated", .nothing, 'z')],
    false, 1⟩
  let usage ← manual.usage arguments
  let ending : UInt8 := if usage.has 'z' then 0 else 10
  let marks := marks ((usage.text? 'd').getD "\t").toList
  let paths := if usage.operands.isEmpty then ["-"] else usage.operands
  let dashes := paths.countP (· = "-")
  let input ← if dashes = 0 then pure []
    else Work.takeInputOr fun fault => "paste: -: " ++ reason fault
  let inputLines := (splitLines ending input).1
  let columns ← paths.zipIdx.filterMapM fun (path, i) => do
    if path = "-" then
      if usage.has 's' then return some (if (paths.take i).contains "-" then [] else inputLines)
      else return some (shareOut dashes inputLines ((paths.take i).countP (· = "-")))
    else
      match ← Work.contents path with
      | .ok bytes => return some (splitLines ending bytes).1
      | .error fault =>
        Work.complain ("paste: " ++ shown path ++ ": " ++ reason fault)
        if usage.has 's' then return none else Work.stop
  let lines := if usage.has 's' then columns.map (joinMarked marks)
    else sideBySide marks ((columns.map (·.length)).foldl max 0) columns
  Work.print (joinLines ending lines true)

/-- How far a line is after a byte; a tab goes to the next place that eight divides. -/
def columnAfter (column : Nat) (byte : UInt8) : Nat :=
  if byte = 8 then column - 1
  else if byte = 13 then 0
  else if byte = 9 then column + 8 - column % 8
  else column + 1

/-- The width of a run of bytes. -/
def widthOf (countsBytes : Bool) (line : Bytes) : Nat :=
  if countsBytes then line.length else line.foldl columnAfter 0

/-- A line in pieces that are no wider than is allowed. `begun` is the piece begun, in reverse. -/
def folded (countsBytes atBlanks : Bool) (width : Nat) : Nat → (begun : Bytes) → Bytes → List Bytes
  | 0, begun, rest => [begun.reverse ++ rest]
  | _, begun, [] => [begun.reverse]
  | fuel + 1, begun, byte :: rest =>
    if begun.isEmpty ∨ widthOf countsBytes (byte :: begun).reverse ≤ width then
      folded countsBytes atBlanks width fuel (byte :: begun) rest
    else
      let isBlank (b : UInt8) : Bool := b == 32 || b == 9
      let tail := begun.takeWhile (!isBlank ·)
      if atBlanks ∧ tail.length < begun.length then
        let head := begun.drop tail.length
        head.reverse :: folded countsBytes atBlanks width fuel tail (byte :: rest)
      else begun.reverse :: folded countsBytes atBlanks width fuel [] (byte :: rest)

/-- Breaks long lines. -/
def fold (arguments : List String) : Work Unit := do
  let spelled := arguments.map fun word => match word.toList with
    | '-' :: c :: rest => if c.isDigit then "-w" ++ String.ofList (c :: rest) else word
    | _ => word
  let manual : Manual := ⟨"fold", "bsw:",
    [("bytes", .nothing, 'b'), ("spaces", .nothing, 's'), ("width", .text, 'w')], false, 1⟩
  let usage ← manual.usage spelled
  let text := (usage.text? 'w').getD "80"
  let width ← match Text.digits? 10 text.toList with
    | some 0 => do
      Work.complain ("fold: invalid number of columns: " ++ quoted text ++
        ": Numerical result out of range")
      Work.stop
    | some n => pure n
    | none => do
      Work.complain ("fold: invalid number of columns: " ++ quoted text)
      Work.stop
  onContents (fun path fault => "fold: " ++ shown path ++ ": " ++ reason fault)
    (fun _ bytes => do
      let (lines, isEnded) := splitLines 10 bytes
      let pieces := lines.flatMap fun line =>
        folded (usage.has 'b') (usage.has 's') width (2 * line.length + 2) [] line
      Work.print (joinLines 10 pieces isEnded))
    usage.operands

/-- A line with blanks in place of tabs. -/
def withoutTabs (stop : Nat) (line : Bytes) : Bytes :=
  (line.foldl
    (fun (state : Nat × List Bytes) byte =>
      let (column, written) := state
      if byte = 9 then
        let blanks := stop - column % stop
        (column + blanks, List.replicate blanks 32 :: written)
      else (if byte = 8 then column - 1 else column + 1, [byte] :: written))
    (0, [])).2.reverse.flatten

/-- A line with tabs in place of the blanks in front. -/
def withTabs (stop : Nat) (line : Bytes) : Bytes :=
  let blanks := line.takeWhile fun byte => byte = 32 ∨ byte = 9
  let width := (withoutTabs stop blanks).length
  List.replicate (width / stop) 9 ++ List.replicate (width % stop) 32 ++ line.drop blanks.length

/-- Writes files with blanks in place of tabs, or the other way round. -/
def retab (tool : String) (turn : Nat → Bytes → Bytes) (arguments : List String) : Work Unit := do
  let spelled := arguments.map fun word => match word.toList with
    | '-' :: c :: rest => if c.isDigit then "-t" ++ String.ofList (c :: rest) else word
    | _ => word
  let manual : Manual := ⟨tool, "ait:",
    [("tabs", .text, 't'), ("initial", .nothing, 'i'), ("all", .nothing, 'a')], false, 1⟩
  let usage ← manual.usage spelled
  let stop := ((usage.text? 't').bind (·.toNat?)).getD 8
  onContents (fun path fault => tool ++ ": " ++ shown path ++ ": " ++ reason fault)
    (fun _ bytes => do
      let (lines, isEnded) := splitLines 10 bytes
      Work.print (joinLines 10 (lines.map (turn (max 1 stop))) isEnded))
    usage.operands

end BoardDebug.Build.Tool
