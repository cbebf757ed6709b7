import BoardDebug.Build.Tool.Status

namespace BoardDebug.Build.Tool

/-- Something that is listed, under the name by which it is listed. -/
structure Listed where
  name : String
  place : Place
  node : Node

/-- How files are listed. -/
structure Listing where
  usage : Usage

namespace Listing

def has (how : Listing) (letter : Char) : Bool :=
  how.usage.has letter

/-- The part of a name behind its last point. -/
def endingOf (name : String) : String :=
  match name.toList.reverse.span (· ≠ '.') with
  | (ending, _ :: _) => String.ofList ending.reverse
  | (_, []) => ""

/-- Whether one thing comes before another, names deciding where all else is equal. -/
def before (how : Listing) (a b : Listed) : Bool :=
  match how.usage.lastOf? "tSXvUf" with
  | some 't' => b.node.time < a.node.time || a.node.time == b.node.time && a.name ≤ b.name
  | some 'S' =>
    let (x, y) := (sizeOf a.node.body, sizeOf b.node.body)
    y < x || x == y && a.name ≤ b.name
  | some 'X' =>
    let (x, y) := (endingOf a.name, endingOf b.name)
    x < y || x == y && a.name ≤ b.name
  | _ => a.name ≤ b.name

def sort (how : Listing) (all : List Listed) : List Listed :=
  let sorted := all.mergeSort how.before
  let ordered := if how.has 'r' then sorted.reverse else sorted
  if how.has '^' then
    let (directories, others) := ordered.partition fun l => l.node.body == .directory
    directories ++ others
  else ordered

/-- The sign behind a name that tells what it is. -/
def sign (how : Listing) (body : Body) (mode : Nat) : String :=
  match body with
  | .directory => if how.usage.hasAny "pF=" then "/" else ""
  | .link _ => if how.usage.hasAny "F=" && !how.has 'l' then "@" else ""
  | .device _ => ""
  | _ => if how.has 'F' && mode &&& 0o111 != 0 then "*" else ""

/-- A name as it is written. -/
def written (how : Listing) (name : String) : String :=
  if how.has 'Q' then
    "\"" ++ String.ofList (name.toList.flatMap fun c =>
      if c = '"' ∨ c = '\\' then ['\\', c]
      else if isPrintable c then [c] else '\\' :: spelled c) ++ "\""
  else if how.has 'b' then
    String.ofList (name.toList.flatMap fun c =>
      if c = ' ' ∨ c = '\\' then ['\\', c]
      else if isPrintable c then [c] else '\\' :: spelled c)
  else if how.has 'q' then String.ofList (name.toList.map fun c => if isPrintable c then c else '?')
  else name

/-- The lines for things, in columns if all is told about them. -/
def lines (how : Listing) (files : Files) (all : List Listed) : List String :=
  let names := all.map fun l =>
    let goal := match l.node.body with
      | .link path => if how.usage.hasAny "lno" then " -> " ++ how.written path else ""
      | _ => ""
    how.written l.name ++ how.sign l.node.body l.node.mode ++ goal
  if how.usage.hasAny "lngo" then
    let rows := all.map fun l =>
      let time := Date.write l.node.time "%b %e %H:%M".toList
      let owner := if how.has 'g' then [] else [if how.has 'n' then "0" else "root"]
      let group := if how.usage.hasAny "oG" then [] else [if how.has 'n' then "0" else "root"]
      [kindLetter l.node.body ++ Mode.letters l.node.mode,
        toString (linkCount files l.place)] ++ owner ++ group ++
        [toString (sizeOf l.node.body), time]
    let widths := (List.range 6).map fun n =>
      (rows.map fun row => (row[n]?.getD "").length).foldl max 0
    let isRight (n : Nat) (row : List String) := n = 1 || n + 2 = row.length
    (rows.zip names).map fun (row, name) =>
      let cells := (row.zip widths).zipIdx.map fun ((text, width), n) =>
        let filler := String.ofList (List.replicate (width - text.length) ' ')
        if isRight n row then filler ++ text else text ++ filler
      " ".intercalate cells ++ " " ++ name
  else
    let numbers := if how.has 'i' then
        all.map fun l => toString ((files.number? l.place).getD 0 + 2) ++ " "
      else all.map fun _ => ""
    (numbers.zip names).map fun (number, name) => number ++ name

/-- Names with commas between them, in lines of at most 80 columns. -/
def inRows (names : List String) : String :=
  let (text, _) := names.zipIdx.foldl
    (fun (text, column) (name, n) =>
      let piece := if n + 1 = names.length then name else name ++ ","
      if n = 0 then (piece, piece.length)
      else if column + 1 + piece.length < 80 then
        (text ++ " " ++ piece, column + 1 + piece.length)
      else (text ++ "\n" ++ piece, piece.length))
    ("", 0)
  if names.isEmpty then "" else text ++ "\n"

def sayAll (how : Listing) (all : List Listed) : Work Unit := do
  let files ← Work.files
  let lines := how.lines files (how.sort all)
  if how.usage.lastOf? "m1lgnoCx" = some 'm' then Work.say (inRows lines)
  else Work.say (String.join (lines.map (· ++ "\n")))

/-- What is listed of a directory. -/
def inside (how : Listing) (files : Files) (place : Place) : List Listed :=
  let names := files.names place
  let shows (name : String) : Bool :=
    (how.usage.hasAny "aAf" || !name.startsWith ".") && !(how.has 'B' && name.endsWith "~")
  let dots : List Listed := if how.usage.lastOf? "aAf" = some 'a' ∨ how.has 'f' then
      ([".", ".."].zip [place, place.dropLast]).filterMap fun (name, p) =>
        (files.node? p).map fun node => ⟨name, p, node⟩
    else []
  dots ++ (names.filter shows).filterMap fun name =>
    (files.node? (place ++ [name])).map fun node => ⟨name, place ++ [name], node⟩

/-- Lists directories, the first one perhaps without its name. -/
def directories (how : Listing) : Nat → (isFirst hasTitle : Bool) → List (String × Place) →
    Work Unit
  | 0, _, _, _ => return ()
  | _, _, _, [] => return ()
  | fuel + 1, isFirst, hasTitle, (path, place) :: rest => do
    let files ← Work.files
    if hasTitle then
      Work.say ((if isFirst then "" else "\n") ++ how.written path ++ ":\n")
    let found := how.inside files place
    if how.usage.hasAny "lngo" then
      let blocks := found.map fun l => match l.node.body with
        | .link _ => 0
        | body => (sizeOf body + 4095) / 4096 * 4
      Work.say ("total " ++ toString (blocks.foldl (· + ·) 0) ++ "\n")
    how.sayAll found
    let below := if how.has 'R' then
        (how.sort found).filterMap fun l =>
          if l.node.body = .directory ∧ l.name ≠ "." ∧ l.name ≠ ".." then
            some ((if path.endsWith "/" then path else path ++ "/") ++ l.name, l.place)
          else none
      else []
    directories how fuel false hasTitle (below ++ rest)

end Listing

def lsManual : Manual where
  tool := "ls"
  letters := "abcCdDfFgGhHiI:klLmnNopqQrRsStT:uUvw:xXZ1AB"
  words := [("all", .nothing, 'a'), ("almost-all", .nothing, 'A'), ("author", .nothing, '2'),
    ("block-size", .text, '3'), ("classify", .perhaps, 'F'), ("color", .perhaps, '4'),
    ("dereference", .nothing, 'L'), ("directory", .nothing, 'd'), ("dired", .nothing, '5'),
    ("escape", .nothing, 'b'), ("file-type", .nothing, '='), ("format", .text, '6'),
    ("full-time", .nothing, '7'), ("group-directories-first", .nothing, '^'),
    ("hide", .text, '8'), ("hide-control-chars", .nothing, 'q'),
    ("human-readable", .nothing, 'h'), ("ignore", .text, 'I'), ("ignore-backups", .nothing, 'B'),
    ("indicator-style", .text, '9'), ("inode", .nothing, 'i'), ("literal", .nothing, 'N'),
    ("no-group", .nothing, 'G'), ("numeric-uid-gid", .nothing, 'n'), ("quote-name", .nothing, 'Q'),
    ("quoting-style", .text, '0'), ("recursive", .nothing, 'R'), ("reverse", .nothing, 'r'),
    ("show-control-chars", .nothing, 'N'), ("size", .nothing, 's'), ("sort", .text, '-'),
    ("time", .text, '+'), ("time-style", .text, '*'), ("width", .text, 'w')]
  status := 2

/-- Lists files, and what lies in directories. -/
def ls (arguments : List String) : Work Unit := do
  let usage ← lsManual.usage arguments
  let how : Listing := ⟨usage⟩
  let files ← Work.files
  let operands := if usage.operands.isEmpty then ["."] else usage.operands
  let keepsLinks := usage.hasAny "ldF"
  let found ← operands.filterMapM fun path => do
    let direct := files.findLink path
    let followed := files.find path
    let isDirectory := match followed with
      | .ok (_, ⟨.directory, _, _⟩) => true
      | _ => false
    match if usage.has 'L' || isDirectory && !keepsLinks then followed else direct with
    | .ok (place, node) => return some (⟨path, place, node⟩ : Listed)
    | .error fault =>
      Work.complain ("ls: cannot access " ++ inQuotes path ++ ": " ++ reason fault)
      Work.setStatus 2
      return none
  let (directories, others) := if usage.has 'd' then ([], found)
    else found.partition fun l => l.node.body == .directory
  how.sayAll others
  let places := (how.sort directories).map fun l => (l.name, l.place)
  let hasTitle := usage.has 'R' || 1 < operands.length
  how.directories (files.entries.length + places.length + 1) others.isEmpty hasTitle places

end BoardDebug.Build.Tool
