import BoardDebug.Build.Tool.Mode

namespace BoardDebug.Build.Tool

/-- Whether a path ends in a name for a directory that is open already. -/
def endsInDots (path : String) : Bool :=
  let name := ((path.splitOn "/").filter (· ≠ "")).getLastD ""
  name == "." || name == ".."

/-- Reads a line and tells whether it says yes. -/
def agrees : Work Bool := do
  let input := (← get).input
  let line := input.takeWhile (· ≠ 10)
  modify fun done => { done with input := done.input.drop (line.length + 1) }
  return line.head? = some 121 || line.head? = some 89

/-- Asks whether something shall be done. -/
def ask (question : String) : Work Bool := do
  Work.write true (Octets.bytes (question ++ "? "))
  agrees

/-- What a node is called. -/
def Body.kind : Body → String
  | .directory => "directory"
  | .link _ => "symbolic link"
  | .file [] => "regular empty file"
  | .device _ => "character special file"
  | _ => "regular file"

structure Removal where
  isRecursive : Bool
  isForced : Bool
  /-- Whether empty directories may go. -/
  takesEmpty : Bool
  tells : Bool
  asks : Bool

namespace Removal

/-- Takes away one place that is empty by now. -/
def take (how : Removal) (path : String) (place : Place) (body : Body) : Work Unit := do
  let agreed ← if how.asks then ask ("rm: remove " ++ Body.kind body ++ " " ++ inQuotes path)
    else pure true
  if agreed then
    Work.changeFiles (·.remove place)
    if how.tells then
      let kind := if body = .directory then "directory " else ""
      Work.say ("removed " ++ kind ++ inQuotes path ++ "\n")

/-- Takes away what a path leads to. -/
def one (how : Removal) (path : String) : Work Unit := do
  let refuse (why : String) := Work.complain ("rm: cannot remove " ++ inQuotes path ++ ": " ++ why)
  let files ← Work.files
  match files.findLink path with
  | .error fault =>
    if !(how.isForced ∧ (fault = .missing ∨ fault = .notDirectory)) then refuse (reason fault)
  | .ok (place, ⟨.directory, _, _⟩) =>
    let names := files.names place
    if !how.isRecursive ∧ !(how.takesEmpty ∧ names.isEmpty) then
      refuse (if how.takesEmpty then "Directory not empty" else "Is a directory")
    else if endsInDots path then
      Work.complain
        ("rm: refusing to remove '.' or '..' directory: skipping " ++ inQuotes path)
    else if place = [] then
      Work.complain "rm: it is dangerous to operate recursively on '/'"
      Work.complain "rm: use --no-preserve-root to override this failsafe"
    else
      let agreed ← if how.asks ∧ !names.isEmpty then
          ask ("rm: descend into directory " ++ inQuotes path)
        else pure true
      if agreed then
        (placesBelow files place).reverse.forM fun p => do
          match files.body? p with
          | some body => how.take (pathBelow path place p) p body
          | none => return ()
        how.take path place .directory
  | .ok (place, node) => how.take path place node.body

end Removal

def rm (arguments : List String) : Work Unit := do
  let manual : Manual := ⟨"rm", "dfiIrRv",
    [("dir", .nothing, 'd'), ("force", .nothing, 'f'), ("interactive", .perhaps, 'i'),
      ("one-file-system", .nothing, '1'), ("no-preserve-root", .nothing, '2'),
      ("preserve-root", .perhaps, '3'), ("recursive", .nothing, 'r'),
      ("verbose", .nothing, 'v')], false, 1⟩
  let usage ← manual.usage arguments
  let last := usage.lastOf? "fiI"
  let how : Removal :=
    { isRecursive := usage.hasAny "rR"
      isForced := last == some 'f'
      takesEmpty := usage.has 'd'
      tells := usage.has 'v'
      asks := last == some 'i' }
  let count := usage.operands.length
  if count = 0 ∧ !how.isForced then misuse "rm" "missing operand" 1
  if last = some 'I' ∧ (how.isRecursive ∨ 3 < count) then
    let what := toString count ++ (if count = 1 then " argument" else " arguments")
    let agreed ← ask ("rm: remove " ++ what ++ (if how.isRecursive then " recursively" else ""))
    if !agreed then Work.stop
  usage.operands.forM how.one

/-- The paths that a path leads through, the longest first. -/
def waysDown (path : String) : List String :=
  let names := path.splitOn "/"
  let starts := (List.range names.length).map fun n => "/".intercalate (names.take (n + 1))
  (starts.filter (· ≠ "")).reverse

def rmdir (arguments : List String) : Work Unit := do
  let manual : Manual := ⟨"rmdir", "pv",
    [("ignore-fail-on-non-empty", .nothing, '1'), ("parents", .nothing, 'p'),
      ("verbose", .nothing, 'v')], false, 1⟩
  let usage ← manual.usage arguments
  if usage.operands.isEmpty then misuse "rmdir" "missing operand" 1
  usage.operands.forM fun path => do
    let trimmed := (path.dropEndWhile '/').toString
    let ways := if usage.has 'p' then path :: (waysDown trimmed).tail else [path]
    let _ ← ways.foldlM
      (fun goesOn way => do
        if goesOn then one usage (way ≠ path) way else return false)
      true
where
  one (usage : Usage) (isParent : Bool) (path : String) : Work Bool := do
    if usage.has 'v' then Work.say ("rmdir: removing directory, " ++ inQuotes path ++ "\n")
    let refuse (why : String) : Work Bool := do
      Work.complain ("rmdir: failed to remove " ++ (if isParent then "directory " else "") ++
        inQuotes path ++ ": " ++ why)
      return false
    let files ← Work.files
    match files.findLink path with
    | .ok (place, ⟨.directory, _, _⟩) =>
      if (path.splitOn "/").getLast? = some "." then refuse "Invalid argument"
      else if !(files.names place).isEmpty then
        if usage.has '1' then return false else refuse "Directory not empty"
      else
        Work.changeFiles (·.remove place)
        return true
    | .ok _ => refuse "Not a directory"
    | .error fault => refuse (reason fault)

end BoardDebug.Build.Tool
