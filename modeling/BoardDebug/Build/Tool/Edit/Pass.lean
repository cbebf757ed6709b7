import BoardDebug.Build.Tool.Edit.Script
import BoardDebug.Build.Tool.Usage

namespace BoardDebug.Build.Tool.Edit

/-- What is written behind a line before the next one is read. -/
inductive Later where
  | bytes (content : Bytes)
  | file (path : String)

/-- How a script is run. -/
structure Manner where
  commands : Array Command
  /-- Whether nothing is written but what commands write. -/
  isSilent : Bool
  /-- The ending of the copies of files that are changed in place. -/
  inPlace : Option String
  width : Nat
  ending : Char

/-- A text that is being edited. -/
structure Pass where
  text : List Char := []
  /-- Whether the line had an end. -/
  isEnded : Bool := true
  held : List Char := []
  heldIsEnded : Bool := true
  line : Nat := 0
  name : String := "-"
  /-- The lines of the file at work that have not been read, and whether the last one has an end. -/
  lines : List Bytes := []
  lastIsEnded : Bool := true
  /-- The files that have not been opened. -/
  paths : List String := []
  /-- The ranges of lines that have begun, by the places of their commands, with their ends. -/
  ranges : List (Nat × Option Nat) := []
  /-- Whether something was replaced since the last line was read. -/
  isChanged : Bool := false
  latest : Sought := none
  later : List Later := []
  /-- What was written, the latest first. -/
  written : List Bytes := []
  /-- The files whose last line lacks its end; no name stands for what was written. -/
  unended : List String := []
  /-- The lines of files that have been taken one by one. -/
  taken : List (String × List Bytes) := []
  isWrong : Bool := false

abbrev Editing := StateT Pass Work

namespace Editing

/-- Writes bytes to a file, or to what is written if there is no name, behind an end of a line that
was missing. -/
def writeTo (m : Manner) (path : String) (bytes : Bytes) : Editing Unit := do
  let gap := if (← get).unended.contains path then Octets.toBytes [m.ending] else []
  modify fun p => { p with unended := p.unended.filter (· ≠ path) }
  let bytes := gap ++ bytes
  if path = "" ∨ (path = "/dev/stdout" ∧ m.inPlace.isNone) then
    modify fun p => { p with written := bytes :: p.written }
  else if path = "/dev/stdout" then Work.print bytes
  else if path = "/dev/stderr" then Work.write true bytes
  else
    let old := ((← Work.files).contents path).toOption.getD []
    let _ ← Work.store path (old ++ bytes)

/-- Writes text as a line, which may lack its end. -/
def writeLineTo (m : Manner) (path : String) (text : List Char) (isEnded : Bool) :
    Editing Unit := do
  writeTo m path (Octets.toBytes (if isEnded then text ++ [m.ending] else text))
  if !isEnded then modify fun p => { p with unended := path :: p.unended }

def write (m : Manner) (bytes : Bytes) : Editing Unit :=
  writeTo m "" bytes

/-- Writes text as a line, unless the line that was read had no end. -/
def writeLine (m : Manner) (text : List Char) : Editing Unit := do
  writeLineTo m "" text (← get).isEnded

/-- Writes what comes behind a line. -/
def flush (m : Manner) : Editing Unit := do
  let later := (← get).later
  modify fun p => { p with later := [] }
  later.forM fun
    | .bytes content => write m content
    | .file path => do
      match ← Work.contents path with
      | .ok bytes => if !bytes.isEmpty then write m bytes
      | .error _ => return ()

/-- Complains that a file cannot be read. -/
def refuse (path : String) (fault : FileFault) : Editing Unit := do
  if fault = .isDirectory ∨ path = "-" then
    let what := if path = "-" then "stdin" else path
    Work.complain ("sed: read error on " ++ what ++ ": " ++ reason fault)
    Work.quit 4
  else
    Work.complain ("sed: can't read " ++ path ++ ": " ++ reason fault)
    modify fun p => { p with isWrong := true }

/-- Opens files until there is a line to be read; the result says whether there is one. -/
def refill (m : Manner) : Nat → Editing Bool
  | 0 => return false
  | fuel + 1 => do
    let p ← get
    if !p.lines.isEmpty then return true
    else
      match p.paths with
      | [] => return false
      | path :: paths =>
        set { p with paths }
        match ← Work.contents path with
        | .error fault => refuse path fault
        | .ok bytes =>
          let (lines, lastIsEnded) := splitLines (.ofNat m.ending.toNat) bytes
          modify fun p => { p with lines, lastIsEnded, name := path }
        refill m fuel

/-- Whether there is no line to be read. -/
def isOver (m : Manner) : Editing Bool := do
  let p ← get
  return !(← refill m (p.paths.length + 1))

/-- Reads the next line into the text, or behind it; the result says whether there is one. -/
def readLine (m : Manner) (more : Bool) : Editing Bool := do
  flush m
  if ← isOver m then return false
  else
    modify fun p =>
      match p.lines with
      | [] => p
      | line :: lines =>
        let read := Octets.ofBytes line
        { p with
          text := if more then p.text ++ m.ending :: read else read
          isEnded := !lines.isEmpty || p.lastIsEnded
          line := p.line + 1
          lines }
    return true

/-- What is looked for: what is named or, if nothing is, what was looked for before. Lines inside a
text only count if lines end as usual. -/
def finds (m : Manner) (sought : Sought) : Editing (Option (Regex × Regex.View)) := do
  if sought.isSome then modify fun p => { p with latest := sought }
  return (← get).latest.map fun (regex, view) =>
    (regex, { view with hasLines := view.hasLines && m.ending == '\n' })

/-- Ends the work since nothing was looked for before. -/
def refuseEmpty {α : Type} : Editing α := do
  Work.complain "sed: -e expression #1, char 0: no previous regular expression"
  Work.quit 1

def isIn (m : Manner) (sought : Sought) : Editing Bool := do
  match ← finds m sought with
  | some (regex, view) => return (regex.find? view (← get).text 0).isSome
  | none => refuseEmpty

/-- Whether the line at work is one that is named. -/
def isAt (m : Manner) (point : Point) : Editing Bool := do
  let line := (← get).line
  match point with
  | .line n => return line = n
  | .step first each =>
    return if each = 0 then line = first else first ≤ line && (line - first) % each = 0
  | .last => isOver m
  | .text sought => isIn m sought

/-- Begins a range of lines that may go on with the next line. -/
def beginRange (index : Nat) (limit : Limit) : Editing Unit := do
  let line := (← get).line
  let upTo (stop : Nat) : Editing Unit := do
    if line < stop then modify fun p => { p with ranges := (index, some stop) :: p.ranges }
  match limit with
  | .line n => upTo n
  | .further n => upTo (line + n)
  | .multiple n => upTo (if n = 0 then line else (line + n - 1) / n * n)
  | _ => modify fun p => { p with ranges := (index, none) :: p.ranges }

def endRange (index : Nat) : Editing Unit :=
  modify fun p => { p with ranges := p.ranges.filter fun (n, _) => n ≠ index }

/-- Whether a command is meant for the line at work. -/
def selects (m : Manner) (index : Nat) (command : Command) : Editing Bool := do
  match command.address with
  | none => return true
  | some ⟨first, none⟩ => isAt m first
  | some ⟨first, some limit⟩ =>
    match (← get).ranges.find? fun (n, _) => n = index with
    | none =>
      let isFirst ← isAt m first
      if isFirst then beginRange index limit
      return isFirst
    | some (_, some stop) =>
      let line := (← get).line
      if stop ≤ line then endRange index
      return line ≤ stop
    | some (_, none) =>
      let ends ← match limit with
        | .text sought => isIn m sought
        | _ => isOver m
      if ends then endRange index
      return true

/-- How the next letters are written: all of them, and the first one. -/
structure Case where
  all : Casing := .plain
  first : Casing := .plain

def cased (casing : Casing) (c : Char) : Char :=
  match casing with
  | .upper => c.toUpper
  | .upperFirst => c.toUpper
  | .lower => c.toLower
  | .lowerFirst => c.toLower
  | .plain => c

def withCase (how : Case) : List Char → List Char × Case
  | [] => ([], how)
  | c :: rest =>
    let casing := match how.first with
      | .plain => how.all
      | first => first
    (cased casing c :: rest.map (cased how.all), { how with first := .plain })

/-- The text that pieces make of what was found. -/
def replacement (found : Regex.Found) (text : List Char) : Case → List Piece → List Char
  | _, [] => []
  | how, piece :: rest =>
    match piece with
    | .casing .upperFirst => replacement found text { how with first := .upperFirst } rest
    | .casing .lowerFirst => replacement found text { how with first := .lowerFirst } rest
    | .casing all => replacement found text { all } rest
    | .char c =>
      let (written, how) := withCase how [c]
      written ++ replacement found text how rest
    | .part n =>
      let (written, how) := withCase how (found.text text n)
      written ++ replacement found text how rest

/-- Replaces what is found from a place on; `count` places have been met, the last one of which
ended at `stop`. -/
def replaced (s : Substitution) (regex : Regex) (view : Regex.View) (text : List Char) :
    Nat → (count start : Nat) → (stop : Option Nat) → List Char × Bool
  | 0, _, start, _ => (text.drop start, false)
  | fuel + 1, count, start, stop =>
    match if text.length < start then none else regex.find? view text start with
    | none => (text.drop start, false)
    | some found =>
      let before := (text.take found.start).drop start
      let isEmpty := found.start = found.stop
      let passed := (text.drop found.start).take (if isEmpty then 1 else 0)
      let next := if isEmpty then found.stop + 1 else found.stop
      let isBehind := isEmpty && stop == some found.start
      let count := if isBehind then count else count + 1
      if isBehind ∨ count < s.number then
        let (rest, isDone) := replaced s regex view text fuel count next (some found.stop)
        (before ++ found.text text 0 ++ passed ++ rest, isDone)
      else
        let new := replacement found text {} s.pieces
        if s.isGlobal then
          let (rest, _) := replaced s regex view text fuel count next (some found.stop)
          (before ++ new ++ passed ++ rest, true)
        else (before ++ new ++ text.drop found.stop, true)

def substitute (m : Manner) (s : Substitution) : Editing Unit := do
  match ← finds m s.sought with
  | none => refuseEmpty
  | some (regex, view) =>
    let text := (← get).text
    let (new, isDone) := replaced s regex view text (text.length + 2) 0 0 none
    if isDone then
      modify fun p => { p with text := new, isChanged := true }
      if s.prints then writeLine m new
      if let some path := s.file then writeLineTo m path new (← get).isEnded

/-- How a character is spelled so that it can be seen. -/
def visible (c : Char) : List Char :=
  if c = '\\' then ['\\', '\\']
  else if isPrintable c then [c]
  else '\\' :: spelled c

/-- Items in lines of a width, each but the last with a backslash at its end. -/
def folded (width : Nat) : (column : Nat) → List (List Char) → List Char
  | _, [] => ['$', '\n']
  | column, item :: rest =>
    if 0 < width ∧ width - 1 < column + item.length then
      '\\' :: '\n' :: item ++ folded width item.length rest
    else item ++ folded width (column + item.length) rest

/-- Leaves the lines that have not been read to others, if that can be done. -/
def leave (m : Manner) : Editing Unit := do
  let p ← get
  if p.name = "-" ∧ (← getThe Finished).isFile then
    let bytes := joinLines (.ofNat m.ending.toNat) p.lines p.lastIsEnded
    modifyThe Finished fun done => { done with input := bytes }

/-- How a script goes on behind a command. -/
inductive Going where
  | on
  | at (index : Nat)
  /-- The next line comes, after the text has been written or not. -/
  | over (prints : Bool)
  /-- The script starts again with the text that is left. -/
  | again
  | quit (status : Nat)

/-- Where a script goes on at a label. -/
def jump (m : Manner) (name : String) : Going :=
  .at ((labelPlace? m.commands name).getD m.commands.size)

/-- Does what a command says. -/
def act (m : Manner) (index : Nat) (command : Command) : Editing Going := do
  let p ← get
  let upToLine := p.text.takeWhile (· != m.ending)
  match command.action with
  | .append text =>
    modify fun p => { p with later := p.later ++ [.bytes (Octets.toBytes text)] }
    return .on
  | .insert text =>
    write m (Octets.toBytes text)
    return .on
  | .change text =>
    let isInside := !command.isTurned && p.ranges.any fun (n, _) => n = index
    if !isInside then write m (Octets.toBytes text)
    return .over false
  | .branch name => return jump m name
  | .branchIf name =>
    set { p with isChanged := false }
    return if p.isChanged then jump m name else .on
  | .branchUnless name =>
    set { p with isChanged := false }
    return if p.isChanged then .on else jump m name
  | .delete => return .over false
  | .deleteLine =>
    if p.text.contains m.ending then
      set { p with text := p.text.drop (upToLine.length + 1) }
      return .again
    else return .over false
  | .hold =>
    set { p with held := p.text, heldIsEnded := p.isEnded }
    return .on
  | .holdMore =>
    set { p with held := p.held ++ m.ending :: p.text, heldIsEnded := p.isEnded }
    return .on
  | .take =>
    set { p with text := p.held, isEnded := p.heldIsEnded }
    return .on
  | .takeMore =>
    set { p with text := p.text ++ m.ending :: p.held, isEnded := p.heldIsEnded }
    return .on
  | .exchange =>
    set { p with
      text := p.held, isEnded := p.heldIsEnded, held := p.text, heldIsEnded := p.isEnded }
    return .on
  | .list width =>
    let text := folded (width.getD m.width) 0 (p.text.map visible)
    write m (Octets.toBytes text)
    return .on
  | .next =>
    if ← isOver m then return .over true
    else
      if !m.isSilent then writeLine m p.text
      let _ ← readLine m false
      return .on
  | .nextMore =>
    if ← isOver m then return .over true
    else
      let _ ← readLine m true
      return .on
  | .number =>
    write m (Octets.bytes (toString p.line ++ "\n"))
    return .on
  | .name =>
    write m (Octets.bytes (p.name ++ "\n"))
    return .on
  | .print =>
    writeLine m p.text
    return .on
  | .printLine =>
    writeLineTo m "" upToLine (p.isEnded || p.text.contains m.ending)
    return .on
  | .quit status prints =>
    if prints then
      if !m.isSilent then writeLine m p.text
      flush m
    leave m
    return .quit status
  | .readFile path =>
    set { p with later := p.later ++ [Later.file path] }
    return .on
  | .readLine path =>
    let lines ← match p.taken.find? fun (name, _) => name = path with
      | some (_, lines) => pure lines
      | none =>
        match ← Work.contents path with
        | .ok bytes => pure (splitLines 10 bytes).1
        | .error _ => pure []
    let later := lines.head?.toList.map fun line => Later.bytes (line ++ [10])
    set { p with
      later := p.later ++ later
      taken := (path, lines.tail) :: p.taken.filter fun (name, _) => name ≠ path }
    return .on
  | .writeFile path =>
    writeLineTo m path p.text p.isEnded
    return .on
  | .writeLine path =>
    writeLineTo m path upToLine (p.isEnded || p.text.contains m.ending)
    return .on
  | .substitute s =>
    substitute m s
    return .on
  | .translate pairs =>
    let moved (c : Char) : Char := ((pairs.find? fun (d, _) => d = c).map (·.2)).getD c
    set { p with text := p.text.map moved }
    return .on
  | .clear =>
    set { p with text := [] }
    return .on
  | .open => return .on
  | .close => return .on
  | .label _ => return .on
  | .nothing => return .on

/-- How the script ends for a line, from a command on. The number bounds the commands that are
run. -/
def script (m : Manner) : Nat → (index : Nat) → Editing Going
  | 0, _ => return .quit 0
  | fuel + 1, index => do
    match m.commands[index]? with
    | none => return .over true
    | some command =>
      if (← selects m index command) != command.isTurned then
        match ← act m index command with
        | .on => script m fuel (index + 1)
        | .at index => script m fuel index
        | going => return going
      else
        match command.action with
        | .open => script m fuel (blockEnd m.commands index)
        | _ => script m fuel (index + 1)

/-- The most commands that are run for a line. -/
def maxCommands : Nat := 1000000

/-- Edits line after line; the result is the status with which the script ends the work, if it does
that. The first round goes on with the text that is there unless it `reads`. -/
def lines (m : Manner) : Nat → (reads : Bool) → Editing (Option Nat)
  | 0, _ => return none
  | fuel + 1, reads => do
    if reads then modify fun p => { p with isChanged := false }
    let isThere ← if reads then readLine m false else pure true
    if !isThere then return none
    else
      match ← script m maxCommands 0 with
      | .quit status => return some status
      | .again =>
        flush m
        lines m fuel false
      | .over prints =>
        if prints ∧ !m.isSilent then writeLine m (← get).text
        lines m fuel true
      | _ => return none

/-- The ranges that are there before the first line. -/
def opened (commands : Array Command) : List (Nat × Option Nat) :=
  ((List.range commands.size).zip commands.toList).filterMap fun (index, command) =>
    match command.address with
    | some ⟨.line 0, _⟩ => some (index, none)
    | _ => none

/-- The path of the copy of a file. -/
def copyPath (ending path : String) : String :=
  let name := (path.toList.reverse.takeWhile (· ≠ '/')).reverse
  let directory := path.toList.take (path.length - name.length)
  let copied :=
    if ending.contains '*' then
      ending.toList.flatMap fun c => if c = '*' then name else [c]
    else name ++ ending.toList
  if ending.contains '/' then String.ofList copied else String.ofList (directory ++ copied)

/-- Puts what was written in place of a file. -/
def replaceFile (m : Manner) (path : String) : Editing Unit := do
  let p ← get
  let bytes := p.written.reverse.flatten
  let ending := m.inPlace.getD ""
  let files ← Work.files
  match files.find path with
  | .ok (place, node) =>
    if ending ≠ "" then
      if let .ok copy := files.lookup false (copyPath ending path) then
        Work.changeFiles (·.move place copy)
    Work.changeFiles fun files => files.insert place (.file bytes) node.mode
  | .error _ => return ()
  set { p with written := [], unended := p.unended.filter (· ≠ "") }

/-- Edits files one by one. -/
def eachFile (m : Manner) (fuel : Nat) : List String → Editing (Option Nat)
  | [] => return none
  | path :: rest => do
    let isFile ← match (← Work.files).find path, m.inPlace with
      | .ok (_, node), some _ => pure (node.body matches Body.file _)
      | _, _ => pure true
    if !isFile then
      Work.complain ("sed: couldn't edit " ++ path ++ ": not a regular file")
      let status ← eachFile m fuel rest
      return some (status.getD 4)
    else
      modify fun p =>
        { p with paths := [path], lines := [], line := 0, ranges := opened m.commands }
      let status ← lines m fuel true
      flush m
      if m.inPlace.isSome then replaceFile m path
      if status.isSome then return status else eachFile m fuel rest

end Editing

end BoardDebug.Build.Tool.Edit
