import BoardDebug.Build.Shell.Find.Reading
import BoardDebug.Build.Shell.Redirect
import BoardDebug.Build.Shell.Start

namespace BoardDebug.Build.Shell.Find

/-- How far a search is. -/
structure Progress where
  /-- The files to which the query writes. -/
  outputs : List (String × Nat) := []
  /-- What is gathered for programs, by their numbers, the latest first. -/
  gathered : List (Nat × Running × Found) := []
  status : Nat := 0
  /-- Whether what lies in the directory at hand is left out. -/
  isPruned : Bool := false
  isOver : Bool := false

abbrev Search := StateT Progress Script

/-- Complains, and so fails. -/
def complain (text : String) : Search Unit := do
  Script.warn ("find: " ++ text ++ "\n")
  modify fun progress => { progress with status := 1 }

/-- The path by which a program is told about what is found. -/
def nameFor (how : Running) (found : Found) : String :=
  if how.isInPlace ∧ found.name ≠ "/" then "./" ++ found.name else found.path

/-- Runs a program for what is found, and tells whether that went well. -/
def runProgram (start : Script.Start) (how : Running) (words : List String) (found : Found) :
    Script Bool := do
  let before := (← get).machine.files
  if how.isInPlace then
    if let .ok (place, _) := before.find found.parent then
      modify fun s => { s with machine.files.here := place }
  let status ← Script.runFor start (fun program => "find: " ++ Tool.quoted program) words
  modify fun s => { s with machine.files.here := before.here }
  match status with
  | .exited 0 => return true
  | _ => return false

/-- Asks whether a program shall be run. -/
def asks (program name : String) : Script Bool := do
  Script.warn ("< " ++ program ++ " ... " ++ name ++ " > ? ")
  let line := (← Script.available 0).takeWhile (· ≠ 10)
  Script.consume 0 (line.length + 1)
  return line.head? = some 121 || line.head? = some 89

/-- Takes away what is found, unless it is the directory from which all starts. -/
def delete (found : Found) : Search Bool := do
  let files := (← getThe State).machine.files
  let fault : Option String := match files.body? found.spot with
    | none => some (Tool.reason .missing)
    | some .directory =>
      if (files.names found.spot).isEmpty then none else some "Directory not empty"
    | some _ => none
  match found.path, fault with
  | ".", _ => return true
  | path, some reason =>
    complain ("cannot delete " ++ Tool.quoted path ++ ": " ++ reason)
    return false
  | _, none =>
    modifyThe State fun s => { s with machine.files := files.remove found.spot }
    return true

/-- Writes a text to a file, or to where all goes. -/
def tell (path : Option String) (text : String) : Search Unit := do
  match path.bind (look · (← get).outputs) with
  | some flow =>
    modifyThe State fun s => { s with machine := s.machine.write flow (Octets.bytes text) }
  | none =>
    let _ ← Script.write 1 (Octets.bytes text)

/-- The answer of a query for what is found. -/
def ask (start : Script.Start) (found : Found) : Query → Search Bool
  | .test holds => do return holds (← getThe State).machine.files found
  | .tell path report => do
    tell path (report (← getThe State).machine.files found)
    return true
  | .delete => delete found
  | .run how => do
    let name := nameFor how found
    let words := how.words.map fun word => name.intercalate (word.splitOn "\x7b\x7d")
    let goesOn ← if how.asks then liftM (asks (words.headD "") name) else pure true
    if goesOn then liftM (runProgram start how words found) else return false
  | .gather number how => do
    modify fun progress =>
      { progress with gathered := (number, how, found) :: progress.gathered }
    return true
  | .prune => do
    modify fun progress => { progress with isPruned := true }
    return true
  | .quit => do
    modify fun progress => { progress with isOver := true }
    return true
  | .not query => do return !(← ask start found query)
  | .both left right => do
    if ← ask start found left then unlessOver (ask start found right) else return false
  | .either left right => do
    if ← ask start found left then return true else unlessOver (ask start found right)
  | .each left right => do
    let _ ← ask start found left
    unlessOver (ask start found right)
where
  unlessOver (act : Search Bool) : Search Bool := do
    if (← get).isOver then return false else act

/-- Runs the programs for which things are gathered. -/
def runGathered (start : Script.Start) : Search Unit := do
  let all := (← get).gathered.reverse
  let groups := (all.map fun (number, how, found) =>
    (number, if how.isInPlace then found.parent else "")).eraseDups
  groups.forM fun (number, parent) => do
    let group := all.filterMap fun (n, how, found) =>
      if n = number ∧ (!how.isInPlace ∨ found.parent = parent) then some (how, found) else none
    match group with
    | [] => return ()
    | (how, found) :: _ =>
      let names := group.map fun (how, found) => nameFor how found
      if !(← liftM (runProgram start how (how.words ++ names) found)) then
        modify fun progress => { progress with status := 1 }

/-- What a name in a directory stands for. -/
def inside (files : Files) (follows : Bool) (above : Found) (name : String) : Option Found :=
  let spot := above.place ++ [name]
  let path := (if above.path.endsWith "/" then above.path else above.path ++ "/") ++ name
  let found (place : Place) (node : Node) : Found :=
    { above with path, spot, place, node, depth := above.depth + 1 }
  match files.node? spot, if follows then files.find (Script.pathOf spot) else .error .missing with
  | none, _ => none
  | some _, .ok (place, node) => some (found place node)
  | some node, .error _ => some (found spot node)

/-- Asks a query for all that lies at a path and below it. -/
def visit (start : Script.Start) (plan : Plan) (query : Query) :
    Nat → (above : List Found) → Found → Search Unit
  | 0, _, _ => return ()
  | fuel + 1, above, found => do
    let isDirectory := found.node.body = .directory
    let goesDown := isDirectory ∧ plan.most.all (found.depth < ·)
    let below : Search Unit := do
      let files := (← getThe State).machine.files
      if files.body? found.place ≠ some .directory then
        complain (Tool.quoted found.path ++ ": " ++ Tool.reason .missing)
      else
        let all := (files.names found.place).filterMap (inside files plan.follows found)
        all.forM (visit start plan query fuel (found :: above))
    let here : Search Unit := do
      modify fun progress => { progress with isPruned := false }
      if plan.least ≤ found.depth ∧ !(← get).isOver then
        let _ ← ask start found query
    if (← get).isOver then return ()
    else if let some other := above.find? fun other => isDirectory && other.place = found.place then
      complain ("File system loop detected; " ++ Tool.quoted found.path ++
        " is part of the same file system loop as " ++ Tool.quoted other.path ++ ".")
    else if plan.isLate then
      if goesDown then below
      here
    else
      here
      if goesDown ∧ !(← get).isPruned ∧ !(← get).isOver then below

/-- Asks a query for all that lies at a path from which a search starts. -/
def visitStart (start : Script.Start) (plan : Plan) (query : Query) (path : String) :
    Search Unit := do
  if (← get).isOver then return ()
  let files := (← getThe State).machine.files
  let followed := if plan.followsStarts then files.find path else .error .missing
  match files.findLink path, followed with
  | .error fault, _ => complain (Tool.quoted path ++ ": " ++ Tool.reason fault)
  | .ok (spot, _), .ok (place, node) =>
    visit start plan query maxDepth [] ⟨path, path, spot, place, 0, node⟩
  | .ok (spot, node), .error _ =>
    visit start plan query maxDepth [] ⟨path, path, spot, spot, 0, node⟩
where
  /-- More names than a path can have. -/
  maxDepth : Nat := 4096

/-- The paths and the query that arguments spell. -/
def read (arguments : List String) : Reader (List String × Query) := do
  let words ← leading (arguments.length + 1) arguments
  let paths := words.takeWhile (!isQueryWord true ·)
  let query ← queryOf (words.drop paths.length)
  return (if paths.isEmpty then ["."] else paths, query)

/-- Opens the files to which a query writes. -/
def openAll : List String → Script (Except String (List (String × Nat)))
  | [] => return .ok []
  | path :: rest => do
    let files := (← get).machine.files
    match ← Script.openFile path .output with
    | .ok flow => return (← openAll rest).map ((path, flow) :: ·)
    | .error _ =>
      let fault : FileFault := if files.isDirectory path then .isDirectory else .missing
      return .error (Tool.quoted path ++ ": " ++ Tool.reason fault)

/-- Looks for files, and does something with those for which a query holds. -/
def run (start : Script.Start) (arguments : List String) : Script ExitStatus := do
  let files := (← get).machine.files
  let fail (text : String) : Script ExitStatus := do
    Script.warn ("find: " ++ text ++ "\n")
    return .exited 1
  match (read arguments).run { now := files.time, files } with
  | .error text => fail text
  | .ok ((paths, query), plan) =>
    plan.warnings.forM fun text => Script.warn ("find: warning: " ++ text ++ "\n")
    match ← openAll query.outputs.eraseDups with
    | .error text => fail text
    | .ok outputs =>
      let search : Search Unit := do
        paths.forM (visitStart start plan query)
        runGathered start
      let (_, progress) ← search.run { outputs }
      return .exited progress.status

end BoardDebug.Build.Shell.Find
