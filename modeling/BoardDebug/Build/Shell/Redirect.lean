import BoardDebug.Build.Shell.Expand
import BoardDebug.Build.Tool.Wording

namespace BoardDebug.Build.Shell.Script

/-- The number in a path that means what a command reads or writes. -/
def numberIn? (path : String) : Option Nat :=
  match path with
  | "/dev/stdin" => some 0
  | "/dev/stdout" => some 1
  | "/dev/stderr" => some 2
  | path =>
    if path.startsWith "/dev/fd/" then (path.drop 8).toNat?
    else if path.startsWith "/proc/self/fd/" then (path.drop 14).toNat?
    else none

/-- How a file is opened. -/
inductive Opening where
  | input
  | inputOutput
  | output
  /-- All that is in it stays. -/
  | append
  /-- It has to be new. -/
  | fresh
deriving DecidableEq

/-- Why a file cannot be opened. -/
def openFault (isBash : Bool) (path : String) (opening : Opening) (fault : FileFault) : String :=
  if isBash then path ++ ": " ++ Tool.reason fault
  else
    let (verb, absent) :=
      if opening = .input then ("open ", "No such file") else ("create ", "Directory nonexistent")
    let isAbsent := fault = .missing ∨ fault = .notDirectory
    "cannot " ++ verb ++ path ++ ": " ++ (if isAbsent then absent else Tool.reason fault)

/-- A flow from or to a file. -/
def openFile (path : String) (opening : Opening) : Script (Except String Nat) := do
  let s ← get
  let files := s.machine.files
  let fail (fault : FileFault) : Except String Nat := .error (openFault s.isBash path opening fault)
  match (numberIn? path).bind (look · s.numbers) with
  | some flow => return .ok flow
  | none =>
    match files.lookup true path with
    | .error .missing =>
      let isDirectory := opening ≠ .input && path.endsWith "/"
      return fail (if isDirectory then .isDirectory else .missing)
    | .error fault => return fail fault
    | .ok place =>
      match files.number? place, files.body? place with
      | some _, some (.device none) => return .ok (← addFlow .nowhere)
      | some number, some body =>
        if opening = .input then return .ok (← addFlow (.file number 0 false))
        else if body = .directory then return fail .isDirectory
        else if opening = .fresh then
          let text := if s.isBash then path ++ ": cannot overwrite existing file"
            else "cannot create " ++ path ++ ": File exists"
          return .error text
        else
          if opening = .output then
            set { s with machine.files := files.setBytes number [] }
          return .ok (← addFlow (.file number 0 (opening = .append)))
      | _, _ =>
        if opening = .input then return fail .missing
        else
          set { s with machine.files := files.create place (.file []) }
          match (← get).machine.files.number? place with
          | some number => return .ok (← addFlow (.file number 0 (opening = .append)))
          | none => return fail .missing

/-- The flow behind a number that a word spells, or nothing for a dash. -/
def sameFlow (target : String) : Script (Except String (Option Nat)) := do
  let s ← get
  if target = "-" then return .ok none
  else
    match Text.digits? 10 target.toList with
    | some n =>
      match look n s.numbers with
      | some flow => return .ok (some flow)
      | none => return .error (target ++ ": Bad file descriptor")
    | none =>
      if s.isBash then return .error (target ++ ": ambiguous redirect")
      else refuse "Syntax error: Bad fd number" 2

/-- The numbers after a redirection, or why it cannot be done. -/
def joinTarget (r : Redirection) (target : String) (numbers : List (Nat × Nat)) :
    Script (Except String (List (Nat × Nat))) := do
  let toOne (opening : Opening) : Script (Except String (List (Nat × Nat))) := do
    return (← openFile target opening).map (joinNumber r.number · numbers)
  let toAll (opening : Opening) : Script (Except String (List (Nat × Nat))) := do
    return (← openFile target opening).map fun flow =>
      joinNumber 2 flow (joinNumber 1 flow numbers)
  let spares := (← get).has 'C'
  match r.direction with
  | .text => return .ok (joinNumber r.number (← addFlow (.of (Octets.bytes target))) numbers)
  | .line =>
    let bytes := Octets.bytes (target ++ "\n")
    return .ok (joinNumber r.number (← addFlow (.of bytes)) numbers)
  | .input => toOne .input
  | .inputOutput => toOne .inputOutput
  | .output =>
    let isFile := ((← get).machine.files.find target).toOption.any fun (_, node) =>
      node.body matches .file _
    toOne (if spares && isFile then .fresh else .output)
  | .replace => toOne .output
  | .append => toOne .append
  | .outputAll => toAll .output
  | .appendAll => toAll .append
  | .same =>
    let isNumber := target = "-" || (Text.digits? 10 target.toList).isSome
    if (← get).isBash ∧ !isNumber ∧ r.number = 1 then toAll .output
    else
      return (← sameFlow target).map fun
        | some flow => joinNumber r.number flow numbers
        | none => numbers.filter fun (n, _) => n ≠ r.number

/-- What a redirection is given. A text that is refused counts as a failure. -/
def targetOf (runText : Source → Script Unit) (r : Redirection) : Script (Option String) := do
  let target : Script (Option String) := do
    if r.direction = .text then
      return some (String.ofList (Atom.text (← atoms runText maxNesting r.target)))
    else return some (← textOf runText r.target)
  if r.direction = .text then
    tryCatch target fun
      | .refused status => do
        setStatus status
        return none
      | ending => throw ending
  else target

/-- The numbers after some redirections; or nothing after a complaint about one, which already goes
where those before it lead. -/
def redirect (runText : Source → Script Unit) :
    List Redirection → (numbers : List (Nat × Nat)) → Script (Option (List (Nat × Nat)))
  | [], numbers => return some numbers
  | r :: rest, numbers => do
    let reading : Script (Option String × List (Nat × Nat)) := do
      let target ← targetOf runText r
      return (target, (← get).numbers)
    match ← withNumbers numbers reading with
    | (none, _) => return none
    | (some target, numbers) =>
      match ← withNumbers numbers (joinTarget r target numbers) with
      | .ok numbers => redirect runText rest numbers
      | .error text =>
        withNumbers numbers (note text (if (← get).isBash then 1 else 2))
        return none

end BoardDebug.Build.Shell.Script
