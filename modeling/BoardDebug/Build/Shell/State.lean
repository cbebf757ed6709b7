import BoardDebug.Build.Finished
import BoardDebug.Build.Flow
import BoardDebug.Build.Shell.Grammar
import BoardDebug.Program

namespace BoardDebug.Build

/-- A signal that ends a program, with the words for its end. -/
structure Signal where
  number : Nat
  name : String
  words : String
deriving DecidableEq

namespace Signal

def all : List Signal :=
  [⟨1, "HUP", "Hangup"⟩, ⟨2, "INT", ""⟩, ⟨3, "QUIT", "Quit"⟩, ⟨4, "ILL", "Illegal instruction"⟩,
    ⟨5, "TRAP", "Trace/breakpoint trap"⟩, ⟨6, "ABRT", "Aborted"⟩, ⟨7, "BUS", "Bus error"⟩,
    ⟨8, "FPE", "Floating point exception"⟩, ⟨9, "KILL", "Killed"⟩,
    ⟨10, "USR1", "User defined signal 1"⟩, ⟨11, "SEGV", "Segmentation fault"⟩,
    ⟨12, "USR2", "User defined signal 2"⟩, ⟨13, "PIPE", ""⟩, ⟨14, "ALRM", "Alarm clock"⟩,
    ⟨15, "TERM", "Terminated"⟩, ⟨16, "STKFLT", "Stack fault"⟩,
    ⟨24, "XCPU", "CPU time limit exceeded"⟩, ⟨25, "XFSZ", "File size limit exceeded"⟩,
    ⟨26, "VTALRM", "Virtual timer expired"⟩, ⟨27, "PROF", "Profiling timer expired"⟩,
    ⟨29, "IO", "I/O possible"⟩, ⟨30, "PWR", "Power failure"⟩, ⟨31, "SYS", "Bad system call"⟩]

def status (signal : Signal) : ExitStatus :=
  .signalled signal.number ("SIG" ++ signal.name)

/-- The names of all signals, by number; the first one stands for the end of a script. -/
def names : List String :=
  ["EXIT", "HUP", "INT", "QUIT", "ILL", "TRAP", "ABRT", "BUS", "FPE", "KILL", "USR1", "SEGV",
    "USR2", "PIPE", "ALRM", "TERM", "STKFLT", "CHLD", "CONT", "STOP", "TSTP", "TTIN", "TTOU",
    "URG", "XCPU", "XFSZ", "VTALRM", "PROF", "WINCH", "IO", "PWR", "SYS", "32", "33", "RTMIN"] ++
    ((List.range 15).map fun n => "RTMIN+" ++ toString (n + 1)) ++
    ((List.range 14).map fun n => "RTMAX-" ++ toString (14 - n)) ++ ["RTMAX"]

/-- The number of a signal that is given by that, or by its name in any case. -/
def number? (spelling : String) : Option Nat :=
  match spelling.toNat? with
  | some n => if n < names.length then some n else none
  | none =>
    let number := names.idxOf spelling.toUpper
    if number < names.length then some number else none

def nameOf (number : Nat) : String :=
  names[number]?.getD ""

/-- The signal with a number, if it ends a program. -/
def numbered? (number : Nat) : Option Signal :=
  all.find? fun s => s.number = number

end Signal

end BoardDebug.Build

namespace BoardDebug.Build.Shell

/-- What a name stands for. -/
inductive Value where
  | text (content : String)
  /-- Texts by numbers, in their order. -/
  | list (items : List (Nat × String))
  /-- Texts by keys, the latest last. -/
  | table (items : List (String × String))
deriving DecidableEq

/-- The text that a value stands for by itself. -/
def Value.content? : Value → Option String
  | text content => some content
  | list items => (items.find? fun (n, _) => n = 0).map (·.2)
  | table items => (items.find? fun (k, _) => k = "0").map (·.2)

/-- What has been put aside while a function is at work. -/
structure Frame where
  function : String
  bindings : List (String × Option Value) := []
  options : Option (List Char) := none

/-- A function, with the file in which it stands. -/
structure Function where
  body : Command
  origin : String

/-- A command that the shell has started beside itself. -/
structure Job where
  /-- Its place among the jobs, from one on. -/
  slot : Nat
  number : Nat
  status : Nat
  /-- When it ends. -/
  stop : Int
  /-- The signal that has ended it from outside. -/
  signal : Option Nat := none
  /-- How many programs a pipe in it has. -/
  parts : Nat := 1
  /-- Whether somebody has waited for it, or the shell knows of its end. -/
  isAwaited : Bool := false
  isKnown : Bool := false

/-- A shell at work. -/
structure State where
  machine : Machine
  dialect : Dialect := .sh
  /-- The flows behind the numbers under which a command reads and writes. -/
  numbers : List (Nat × Nat)
  /-- The number of the shell. -/
  number : Nat
  /-- The name of the script, and its arguments. -/
  name : String
  arguments : List String
  /-- The path of the working directory. -/
  here : String
  /-- What parameters stand for. -/
  bindings : List (String × Value) := []
  /-- The parameters that are handed on to programs, and those that cannot be changed. -/
  exported : List String := []
  readOnly : List String := []
  /-- The parameters whose values are expressions. -/
  integers : List String := []
  functions : List (String × Function) := []
  /-- The programs that have been found, the latest first. -/
  known : List String := []
  aliases : List (String × String) := []
  /-- The functions at work, the innermost first. -/
  frames : List Frame := []
  /-- How the last command ended. -/
  status : Nat := 0
  /-- How the parts of the last pipe ended. -/
  statuses : List Nat := [0]
  /-- How the last command ended whose output became part of a word. -/
  outputStatus : Option Nat := none
  /-- The commands that the shell runs beside itself, the latest first. -/
  jobs : List Job := []
  /-- The number of the last one that was started. -/
  lastJob : Option Nat := none
  line : Nat := 1
  /-- The file whose commands are at work, unless that is the script itself. -/
  origin : String := ""
  /-- Whether a file of commands is at work inside the script. -/
  isSourced : Bool := false
  /-- The directories to which one may come back, the latest first. -/
  stack : List String := []
  /-- How deep the commands at work lie inside words and texts. -/
  depth : Nat := 0
  /-- What is at work inside the shell, as it stands in complaints. -/
  speaker : String := ""
  /-- How many loops are at work. -/
  loops : Nat := 0
  /-- The letters of the options that are on. -/
  options : List Char := []
  /-- The options that are on and have no letter. -/
  features : List String := []
  /-- The next word with options, and how much of it has been seen. -/
  optionIndex : Nat := 1
  optionOffset : Option Nat := none
  /-- The scripts that run when a signal comes, by its number, or at the end. -/
  traps : List (Nat × String) := []
  /-- The numbers of the shells that wait for this one, and the signals that were sent to them. -/
  above : List Nat := []
  pending : List (Nat × Nat) := []
  /-- When the shell has to be done. -/
  deadline : Option Int := none

/-- Puts a value behind a key. -/
def put {κ α : Type} [BEq κ] (key : κ) (value : α) (pairs : List (κ × α)) : List (κ × α) :=
  (key, value) :: pairs.filter fun (k, _) => k != key

def look {κ α : Type} [BEq κ] (key : κ) (pairs : List (κ × α)) : Option α :=
  (pairs.find? fun (k, _) => k == key).map (·.2)

/-- The keys in the order in which a table goes through them: by a sum of their characters. -/
def tableOrder (items : List (String × String)) : List (String × String) :=
  let slot (key : String) : Nat :=
    (key.toList.foldl (fun (h : UInt32) c => (h * 16777619) ^^^ .ofNat c.toNat) 2166136261).toNat
      % 1024
  (items.reverse.mergeSort fun a b => slot a.1 ≤ slot b.1)

namespace State

/-- Whether an option is on. -/
def has (s : State) (letter : Char) : Bool :=
  s.options.contains letter

def isBash (s : State) : Bool :=
  s.dialect == .bash

/-- What a name stands for. Some names stand for a part of the state. -/
def binding? (s : State) (name : String) : Option Value :=
  let list (items : List String) : Value := .list ((List.range items.length).zip items)
  match name, s.isBash with
  | "LINENO", true => some (.text (toString s.line))
  | "FUNCNAME", true => if s.frames.isEmpty then none else some (list (s.frames.map (·.function)))
  | "BASH_SUBSHELL", true => some (.text (toString (s.above.filter (· = s.number)).length))
  | "PIPESTATUS", true => some (list (s.statuses.map toString))
  | name, _ => look name s.bindings

/-- The text that a name stands for. -/
def text? (s : State) (name : String) : Option String :=
  (s.binding? name).bind (·.content?)

/-- The letters of the options that are on, in their order. -/
def letters (s : State) : String :=
  let order := if s.isBash then "abefhkmnptuvxBCEHPTcs" else "ubaCEVvxsnmiIfe"
  let on := if s.isBash then 'h' :: 'B' :: s.options else s.options
  String.ofList (order.toList.filter on.contains)

/-- Where a shell is, as it stands in front of its complaints. -/
def position (s : State) : String :=
  let file := if s.origin = "" then s.name else s.origin
  file ++ (if s.isBash then ": line " else ": ") ++ toString s.line ++ ": "

/-- What a parameter stands for, if it is set. -/
def value? (s : State) (name : List Char) : Option String :=
  match name with
  | ['?'] => some (toString s.status)
  | ['#'] => some (toString s.arguments.length)
  | ['$'] => some (toString s.number)
  | ['!'] => s.lastJob.map toString
  | ['-'] => some s.letters
  | ['@'] => if s.arguments.isEmpty then none else some (" ".intercalate s.arguments)
  | ['*'] => if s.arguments.isEmpty then none else some (" ".intercalate s.arguments)
  | _ =>
    match Text.digits? 10 name with
    | some 0 => some s.name
    | some n => s.arguments[n - 1]?
    | none => s.text? (String.ofList name)

/-- The rules by which scripts are read. -/
def rules (s : State) : Rules :=
  let expands := !s.isBash || s.features.contains "expand_aliases"
  Reading.rules ⟨s.dialect, if expands then s.aliases else []⟩

end State

/-- Why a shell does not go on with the next command. -/
inductive Ending where
  | exited (status : Nat)
  /-- A complaint ends it, unless the one at work bears that. -/
  | refused (status : Nat)
  | killed (signal : Signal)
  /-- It leaves loops, the last of them perhaps for its next round. -/
  | left (loops : Nat) (goesOn : Bool)
  | returned (status : Nat)
  /-- It leaves the commands on the line. -/
  | discarded (status : Nat)
  /-- It takes too long. -/
  | stuck
  /-- It is not done when it has to be. -/
  | overdue

/-- The status of a shell that ends so, if it ends by itself; `last` is how the last command
ended. -/
def Ending.status? (last : Nat) : Ending → Option Nat
  | exited status => some (status % 256)
  | refused status => some (status % 256)
  | returned status => some (status % 256)
  | discarded status => some status
  | left _ _ => some last
  | killed _ => none
  | stuck => none
  | overdue => none

abbrev Script := ExceptT Ending (StateM State)

namespace Script

def setStatus (status : Nat) : Script Unit :=
  modify fun s => { s with status }

/-- The flow behind a number. -/
def flow? (number : Nat) : Script (Option Nat) := do
  return ((← get).numbers.find? fun (n, _) => n = number).map (·.2)

/-- Writes to what is behind a number; the result says whether there is anything. -/
def write (number : Nat) (bytes : Bytes) : Script Bool := do
  match ← flow? number with
  | some flow =>
    modify fun s => { s with machine := s.machine.write flow bytes }
    return true
  | none => return false

/-- Writes a text as a complaint. -/
def warn (text : String) : Script Unit := do
  let _ ← write 2 (Octets.bytes text)

/-- What can be read from what is behind a number. -/
def available (number : Nat) : Script Bytes := do
  match ← flow? number with
  | some flow => return (← get).machine.available flow
  | none => return []

def consume (number count : Nat) : Script Unit := do
  match ← flow? number with
  | some flow => modify fun s => { s with machine := s.machine.drop flow count }
  | none => return ()

/-- Complains with the name of the script and the line. -/
def complain (text : String) : Script Unit := do
  let s ← get
  warn (s.position ++ s.speaker ++ text ++ "\n")

/-- Complains and goes on. -/
def note (text : String) (status : Nat) : Script Unit := do
  complain text
  setStatus status

/-- Complains and gives up. -/
def refuse {α : Type} (text : String) (status : Nat) : Script α := do
  complain text
  throw (.refused status)

/-- Complains and leaves what is being done: all of it, or the commands on the line. -/
def reject {α : Type} (text : String) : Script α := do
  complain text
  if (← get).isBash then throw (.discarded 1) else throw (.refused 2)

/-- Does something in the name of a part of the shell. -/
def speaking {α : Type} (name : String) (act : Script α) : Script α := fun s =>
  let (result, after) := act.run { s with speaker := name ++ ": " }
  (result, { after with speaker := s.speaker })

/-- Runs the commands in a word or a text. -/
def deeper {α : Type} (act : Script α) : Script α := fun s =>
  let (result, after) := act.run { s with depth := s.depth + 1 }
  (result, { after with depth := s.depth })

/-- Takes a refusal for a failure. -/
def bearing (act : Script Unit) : Script Unit :=
  tryCatch act fun
    | .refused status => setStatus status
    | ending => throw ending

/-- Lets a name stand for what it stood for. -/
def restore (name : String) (old : Option Value) (s : State) : State :=
  { s with
    bindings := match old with
      | some old => put name old s.bindings
      | none => s.bindings.filter fun (n, _) => n ≠ name }

/-- Lets a name stand for a value, unless it cannot be changed. -/
def setValue (name : String) (value : Value) : Script Unit := do
  let s ← get
  if s.readOnly.contains name then
    reject (name ++ (if s.isBash then ": readonly variable" else ": is read only"))
  else
    set { s with
      bindings := put name value s.bindings
      exported := if s.has 'a' then name :: s.exported else s.exported }
    if name = "PATH" then modify fun s => { s with known := [] }
    if name = "OPTIND" then
      let index := (value.content?.bind (·.toNat?)).getD 1
      modify fun s => { s with optionIndex := max 1 index, optionOffset := none }

/-- Puts a text behind a number of a list. -/
def putItem (number : Nat) (text : String) (items : List (Nat × String)) : List (Nat × String) :=
  items.takeWhile (fun (n, _) => n < number) ++ (number, text) ::
    items.dropWhile fun (n, _) => n ≤ number

/-- Lets a name stand for a text. In a list that is its first item. -/
def assign (name value : String) : Script Unit := do
  match look name (← get).bindings with
  | some (.list items) => setValue name (.list (putItem 0 value items))
  | some (.table items) => setValue name (.table (items.filter (·.1 ≠ "0") ++ [("0", value)]))
  | _ => setValue name (.text value)

/-- The characters between which words are split. -/
def separators : Script (List Char) := do
  return (((← get).text? "IFS").getD " \t\n").toList

/-- Runs a script, and at its end what it has set a trap for. -/
def withEnd (runText : Source → Script Unit) (act : Script Unit) : Script Unit := fun s =>
  let (result, after) := act.run s
  let status := match result with
    | .ok () => some after.status
    | .error ending => ending.status? after.status
  match look 0 after.traps, status with
  | some text, some status =>
    let traps := after.traps.filter fun (n, _) => n ≠ 0
    let (ended, after) := (runText (.of text.toList)).run { after with status, traps }
    match ended with
    | .ok () => (.error (.exited status), after)
    | ended => (ended, after)
  | _, _ => (result, after)

/-- Does something that goes on beside the shell, which then makes room for it among its jobs and
learns of those that have ended. -/
def withChild {α : Type} (act : Script α) : Script α := fun s =>
  let isDone (job : Job) : Bool := job.isAwaited && job.stop ≤ s.machine.files.time
  let slots := (s.jobs.filter fun job => !isDone job).map (·.slot)
  let free := ((List.range (s.jobs.length + 1)).map (· + 1)).find? (!slots.contains ·)
  let jobs := s.jobs.filter fun job => some job.slot ≠ free
  let (result, after) := act.run { s with jobs }
  let learned (job : Job) : Job :=
    { job with isKnown := job.isKnown || job.stop ≤ after.machine.files.time }
  (result, { after with jobs := after.jobs.map learned })

/-- Runs something in a shell of its own, which shares nothing but files and flows, and the signals
that do nothing. -/
def apart (runText : Source → Script Unit) (act : Script Unit) : Script Unit := withChild fun s =>
  let traps := s.traps.filter fun (_, text) => text.isEmpty
  let above := s.number :: s.above
  let (result, after) := (withEnd runText act).run { s with traps, above, jobs := [] }
  let files := { after.machine.files with
    here := s.machine.files.here, mask := s.machine.files.mask }
  let merged (status : Nat) :=
    { s with machine := { after.machine with files }, pending := after.pending, status }
  match result with
  | .ok () => (.ok (), merged after.status)
  | .error ending =>
    match ending.status? after.status with
    | some status => (.ok (), merged status)
    | none => (.error ending, merged after.status)

/-- Runs something with other flows behind some numbers. -/
def withNumbers {α : Type} (numbers : List (Nat × Nat)) (act : Script α) : Script α := fun s =>
  let (result, after) := act.run { s with numbers }
  (result, { after with numbers := s.numbers })

/-- The numbers with another flow behind one of them. -/
def joinNumber (number flow : Nat) (numbers : List (Nat × Nat)) : List (Nat × Nat) :=
  (number, flow) :: numbers.filter fun (n, _) => n ≠ number

def addFlow (flow : Flow) : Script Nat := do
  let s ← get
  let (machine, number) := s.machine.add flow
  set { s with machine }
  return number

/-- Ends what is not done in time. -/
def checkTime : Script Unit := do
  let s ← get
  if s.deadline.any (· < s.machine.files.time) then throw .overdue

end Script

end BoardDebug.Build.Shell
