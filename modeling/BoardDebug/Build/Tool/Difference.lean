import BoardDebug.Build.CharClass
import BoardDebug.Build.Tool.Compare
import BoardDebug.Build.Tool.Date

namespace BoardDebug.Build.Tool

/-- How a line of one text appears in another. -/
inductive Edit where
  | same
  | removed
  | added
deriving DecidableEq

namespace Edit

/-- For each end of a text, how many lines it shares at most with another text, and the number for
what is left behind the first line of that. -/
def row {α : Type} [BEq α] (line : α) (others : List α) (below : List Nat) : List Nat :=
  match others, below with
  | other :: others, _ :: rest =>
    let right := row line others rest
    let shared := if line == other then (rest.headD 0) + 1
      else max (below.headD 0) (right.headD 0)
    shared :: right
  | _, _ => [0]

/-- The rows for all ends of a text, the whole text first. -/
def rows {α : Type} [BEq α] (others : List α) : List α → List (List Nat)
  | [] => [List.replicate (others.length + 1) 0]
  | line :: rest =>
    let below := rows others rest
    row line others (below.headD []) :: below

/-- What makes one text of another, by the numbers of shared lines. -/
def path {α : Type} [BEq α] : Nat → List (List Nat) → List α → List α → List Edit
  | 0, _, _, _ => []
  | _, _, [], bs => bs.map fun _ => .added
  | _, _, as, [] => as.map fun _ => .removed
  | fuel + 1, table, a :: as, b :: bs =>
    let below := table.tail
    let right (rows : List (List Nat)) := rows.map List.tail
    if a == b then .same :: path fuel (right below) as bs
    else
      let down := (below.headD []).headD 0
      let across := ((table.headD []).tail).headD 0
      if across ≤ down then .removed :: path fuel below as (b :: bs)
      else .added :: path fuel (right table) (a :: as) bs

def common {α : Type} [BEq α] : List α → List α → Nat
  | a :: as, b :: bs => if a == b then common as bs + 1 else 0
  | _, _ => 0

/-- What makes one text of another. -/
def between {α : Type} [BEq α] (as bs : List α) : List Edit :=
  let front := common as bs
  let as := as.drop front
  let bs := bs.drop front
  let back := common as.reverse bs.reverse
  let as := as.take (as.length - back)
  let bs := bs.take (bs.length - back)
  let middle := path (as.length + bs.length + 1) (rows bs as) as bs
  List.replicate front .same ++ middle ++ List.replicate back .same

end Edit

/-- A run of lines that differ: how many come before in both texts, and the lines. -/
structure Hunk where
  first : Nat
  second : Nat
  removed : List String
  added : List String

namespace Hunk

/-- The runs of lines that differ. -/
def ofEdits : List Edit → (a b : Nat) → List String → List String → Option Hunk → List Hunk
  | [], _, _, _, _, begun => begun.toList
  | .same :: edits, a, b, as, bs, begun =>
    begun.toList ++ ofEdits edits (a + 1) (b + 1) as.tail bs.tail none
  | .removed :: edits, a, b, as, bs, begun =>
    let hunk := begun.getD ⟨a, b, [], []⟩
    ofEdits edits (a + 1) b as.tail bs
      (some { hunk with removed := hunk.removed ++ [as.headD ""] })
  | .added :: edits, a, b, as, bs, begun =>
    let hunk := begun.getD ⟨a, b, [], []⟩
    ofEdits edits a (b + 1) as bs.tail (some { hunk with added := hunk.added ++ [bs.headD ""] })

/-- The numbers of lines of which some come before. -/
def range (before count : Nat) : String :=
  if count = 0 then toString before
  else if count = 1 then toString (before + 1)
  else toString (before + 1) ++ "," ++ toString (before + count)

/-- A run of lines in the plain form. -/
def plain (hunk : Hunk) : String :=
  let letter := if hunk.removed.isEmpty then "a" else if hunk.added.isEmpty then "d" else "c"
  range hunk.first hunk.removed.length ++ letter ++ range hunk.second hunk.added.length ++ "\n" ++
    String.join (hunk.removed.map ("< " ++ ·)) ++ (if letter = "c" then "---\n" else "") ++
    String.join (hunk.added.map ("> " ++ ·))

/-- Runs that are so near to each other that they are shown as one. -/
def groups (context : Nat) : List Hunk → List (List Hunk)
  | [] => []
  | hunk :: rest =>
    match groups context rest with
    | (next :: others) :: groups =>
      if next.first - (hunk.first + hunk.removed.length) ≤ 2 * context then
        (hunk :: next :: others) :: groups
      else [hunk] :: (next :: others) :: groups
    | groups => [hunk] :: groups

def unifiedRange (before count : Nat) : String :=
  if count = 1 then toString (before + 1)
  else toString (if count = 0 then before else before + 1) ++ "," ++ toString count

/-- Runs of lines with some of the lines around them. -/
def unified (context : Nat) (as : List String) (hunks : List Hunk) : String :=
  match hunks, hunks.getLast? with
  | first :: _, some last =>
    let start := first.first - min context first.first
    let lastEnd := last.first + last.removed.length
    let stop := min as.length (lastEnd + context)
    let before := first.first - start
    let oldCount := stop - start
    let added := hunks.foldl (fun n hunk => n + hunk.added.length) 0
    let removed := hunks.foldl (fun n hunk => n + hunk.removed.length) 0
    let newCount := oldCount + added - removed
    let body := go start stop hunks
    "@@ -" ++ unifiedRange start oldCount ++ " +" ++
      unifiedRange (first.second - before) newCount ++ " @@\n" ++ body
  | _, _ => ""
where
  lines (start stop : Nat) : String :=
    String.join (((as.take stop).drop start).map (" " ++ ·))
  go (start stop : Nat) : List Hunk → String
    | [] => lines start stop
    | hunk :: rest =>
      lines start hunk.first ++ String.join (hunk.removed.map ("-" ++ ·)) ++
        String.join (hunk.added.map ("+" ++ ·)) ++
        go (hunk.first + hunk.removed.length) stop rest

end Hunk

def diffManual : Manual where
  tool := "diff"
  letters := "abBdiqrsNtuU:wyL:c"
  words := [("brief", .nothing, 'q'), ("unified", .perhaps, 'U'), ("ignore-case", .nothing, 'i'),
    ("ignore-all-space", .nothing, 'w'), ("ignore-space-change", .nothing, 'b'),
    ("ignore-blank-lines", .nothing, 'B'), ("label", .text, 'L'), ("new-file", .nothing, 'N'),
    ("recursive", .nothing, 'r'), ("report-identical-files", .nothing, 's'),
    ("text", .nothing, 'a')]
  status := 2

/-- A line as it counts if some differences do not. -/
def comparable (usage : Usage) (line : String) : String :=
  let text := if usage.has 'i' then line.toList.map Char.toLower else line.toList
  if usage.has 'w' then String.ofList (text.filter (!Blank.isSpace ·))
  else if usage.has 'b' then
    let words := (text.splitOnP Blank.isSpace).zipIdx.filter fun (word, i) =>
      !word.isEmpty || i == 0
    " ".intercalate (words.map fun (word, _) => String.ofList word)
  else String.ofList text

/-- The lines of a file with their ends. -/
def shownLines (bytes : Bytes) : List String :=
  let (lines, isEnded) := splitLines 10 bytes
  let shown := lines.map fun line => Octets.text line ++ "\n"
  if isEnded then shown
  else shown.dropLast ++ [shown.getLastD "" ++ "\\ No newline at end of file\n"]

/-- Writes how the second of two files differs from the first. -/
def diff (arguments : List String) : Work Unit := do
  let usage ← usageTwice diffManual arguments
  let (first, second) ← match usage.operands with
    | [first, second] => pure (first, second)
    | _ :: _ :: extra :: _ => misuseTwice "diff" ("extra operand '" ++ extra ++ "'")
    | words =>
      let last := (words.getLast?.orElse fun _ => arguments.getLast?).getD "diff"
      misuseTwice "diff" ("missing operand after '" ++ last ++ "'")
  let files ← Work.files
  let within (path other : String) : String :=
    if files.isDirectory path ∧ !files.isDirectory other then path ++ "/" ++ baseName other
    else path
  if files.isDirectory first ∧ files.isDirectory second then Work.stop
  let a ← read usage (within first second)
  let b ← read usage (within second first)
  match a, b with
  | some a, some b => compare usage first second a b
  | _, _ => Work.setStatus 2
where
  baseName (path : String) : String :=
    ((path.splitOn "/").filter (· ≠ "")).getLastD ""
  read (usage : Usage) (path : String) : Work (Option Bytes) := do
    match ← Work.contents path with
    | .ok bytes => return some bytes
    | .error fault =>
      if fault = .missing ∧ usage.has 'N' then return some []
      else
        Work.complain ("diff: " ++ path ++ ": " ++ reason fault)
        return none
  compare (usage : Usage) (first second : String) (a b : Bytes) : Work Unit := do
    let as := shownLines a
    let bs := shownLines b
    let isBinary := (a.contains 0 || b.contains 0) && !usage.has 'a'
    let edits := Edit.between (as.map (comparable usage)) (bs.map (comparable usage))
    if edits.all (· = .same) then
      if usage.has 's' then
        Work.say ("Files " ++ first ++ " and " ++ second ++ " are identical\n")
    else
      Work.setStatus 1
      if usage.has 'q' then Work.say ("Files " ++ first ++ " and " ++ second ++ " differ\n")
      else if isBinary then
        Work.say ("Binary files " ++ first ++ " and " ++ second ++ " differ\n")
      else
        let hunks := Hunk.ofEdits edits 0 0 as bs none
        if usage.hasAny "uU" then
          let context := (((usage.text? 'U').bind (·.toNat?))).getD 3
          let files ← Work.files
          let title (path : String) (label : Option String) : String :=
            let time := match files.find path with
              | .ok (_, node) => node.time
              | .error _ => files.time
            label.getD (path ++ "\t" ++ Date.write time "%Y-%m-%d %H:%M:%S.%N %z".toList)
          Work.say ("--- " ++ title first (usage.texts 'L')[0]? ++ "\n")
          Work.say ("+++ " ++ title second (usage.texts 'L')[1]? ++ "\n")
          (Hunk.groups context hunks).forM fun group => Work.say (Hunk.unified context as group)
        else hunks.forM fun hunk => Work.say hunk.plain

end BoardDebug.Build.Tool
