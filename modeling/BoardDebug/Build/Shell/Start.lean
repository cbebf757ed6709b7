import BoardDebug.Build.Shell.Option
import BoardDebug.Build.Shell.Output
import BoardDebug.Build.Shell.Place
import BoardDebug.Build.Shell.Search
import BoardDebug.Build.Tool

namespace BoardDebug.Build.Shell

/-- What a shell lets names stand for if nobody else does. -/
def usualBindings : Dialect → List (String × Value)
  | .sh =>
    [("OPTIND", .text "1"), ("PATH", .text Script.usualPath), ("PS1", .text "# "),
      ("PS2", .text "> "), ("PS4", .text "+ ")]
  | .bash =>
    [("BASH", .text "/bin/bash"), ("BASH_VERSION", .text "5.2.15(1)-release"),
      ("EUID", .text "0"), ("HOSTTYPE", .text "x86_64"), ("OPTERR", .text "1"),
      ("OPTIND", .text "1"), ("OSTYPE", .text "linux-gnu"), ("PATH", .text Script.usualPath),
      ("PS4", .text "+ "), ("UID", .text "0")]

/-- A shell that another program has started: it has its own number, and of the parameters those
that are handed on. -/
def State.child (s : State) (dialect : Dialect) (name : String) (arguments : List String) : State :=
  let here := Script.pathOf s.machine.files.here
  let handedOn := s.bindings.filter fun (n, _) => s.exported.contains n && n != "IFS" && n != "PWD"
  let usual := (usualBindings dialect).filter fun (n, _) => !handedOn.any fun (m, _) => m == n
  { machine := s.machine, dialect, numbers := s.numbers, number := s.number + 1, name, arguments,
    here
    features := if dialect = .bash then Script.firstFeatures else []
    bindings := ("IFS", .text " \t\n") :: ("PWD", .text here) :: handedOn ++ usual
    exported := if s.exported.contains "PWD" then s.exported else "PWD" :: s.exported
    traps := s.traps.filter fun (_, text) => text.isEmpty
    above := s.number :: s.above
    pending := s.pending
    deadline := s.deadline }

namespace Script

/-- Runs a shell that another program has started. -/
def inChild (dialect : Dialect) (name : String) (arguments : List String) (act : Script Unit) :
    Script ExitStatus := fun s =>
  let (result, after) := act.run (s.child dialect name arguments)
  let files := { after.machine.files with
    here := s.machine.files.here, mask := s.machine.files.mask }
  let s := { s with machine := { after.machine with files }, pending := after.pending }
  match result with
  | .ok () => (.ok (.exited after.status), s)
  | .error (.killed signal) => (.ok signal.status, s)
  | .error ending =>
    match ending.status? after.status with
    | some status => (.ok (.exited status), s)
    | none => (.error ending, s)

/-- The text of a script in a file, without the bytes that a shell skips. -/
def scriptText (bytes : Bytes) : List Char :=
  Octets.ofBytes (bytes.filter (· ≠ 0))

/-- Whether a file looks like no script, judged by its first line. -/
def isBinary (dialect : Dialect) (bytes : Bytes) : Bool :=
  (bytes.takeWhile (· ≠ 10)).any fun byte =>
    match dialect with
    | .bash => byte == 0
    | .sh => byte < 9 || 16 ≤ byte && byte < 32 && byte != 27 || byte == 127

/-- Runs the script at a path, or complains that it cannot be had. -/
def runFile (run : String → List String → Source → Script Unit) (path : String)
    (arguments : List String) : Script Unit := do
  let s ← get
  let found : Except FileFault Bytes := match s.machine.files.contents path with
    | .error .missing =>
      if path.contains '/' then .error .missing
      else
        match executable s path with
        | .ok found => s.machine.files.contents found.path
        | .error _ => .error .missing
    | found => found
  match s.dialect, found with
  | dialect, .ok bytes =>
    if isBinary dialect bytes ∧ dialect = .bash then
      warn (path ++ ": " ++ path ++ ": cannot execute binary file\n")
      throw (.exited 126)
    else run path arguments { Source.of (scriptText bytes) with isShown := true }
  | .sh, .error .isDirectory => run path arguments (.of [])
  | .sh, .error _ => refuse ("cannot open " ++ path ++ ": No such file") 2
  | .bash, .error .isDirectory =>
    warn (path ++ ": " ++ path ++ ": Is a directory\n")
    throw (.exited 126)
  | .bash, .error fault =>
    warn (s.name ++ ": " ++ path ++ ": " ++ Tool.reason fault ++ "\n")
    throw (.exited (if fault = .missing then 127 else 126))

/-- Starts a shell: on a text, on a file, or on what there is to be read. -/
def startShell (runText : Source → Script Unit) (dialect : Dialect) (program : String)
    (words : List String) : Script ExitStatus :=
  let run (name : String) (arguments : List String) (source : Source) : Script Unit := do
    modify fun s => { s with name, arguments, line := 1 }
    withEnd runText (runText source)
  inChild dialect program [] do
    modify fun s => { s with line := 0 }
    let words := (← options true 0 true words).getD []
    let s ← get
    if s.has 'c' then
      match words with
      | [] =>
        if dialect = .bash then
          warn (program ++ ": -c: option requires an argument\n")
          throw (.exited 2)
        else refuse "-c requires an argument" 2
      | text :: others =>
        let source : Source :=
          { Source.of text.toList with isShown := dialect == .bash, label := "-c" }
        run (others.headD program) others.tail source
    else
      match if s.has 's' then none else words.head? with
      | none =>
        let text ← available 0
        consume 0 text.length
        run program words { Source.of (scriptText text) with isShown := true }
      | some path => runFile run path words.tail

/-- The program that the first line of a script asks for, with an argument. -/
def interpreter? (bytes : Bytes) : Option (String × List String) :=
  match Octets.ofBytes (bytes.takeWhile (· ≠ 10)) with
  | '#' :: '!' :: line =>
    let isBlank (c : Char) : Bool := c == ' ' || c == '\t'
    let line := ((line.dropWhile isBlank).reverse.dropWhile isBlank).reverse
    let (program, rest) := line.span (!isBlank ·)
    let argument := rest.dropWhile isBlank
    if program.isEmpty then none
    else some (String.ofList program, if argument.isEmpty then [] else [String.ofList argument])
  | _ => none

/-- Starts a program with arguments, if it can be found. -/
abbrev Start := (program : String) → (arguments : List String) →
  Script (Except FileFault ExitStatus)

/-- Runs the program that another one is told to run, or complains in its name. -/
def runFor (start : Start) (complaint : String → String) (words : List String) :
    Script ExitStatus := do
  match words with
  | program :: arguments =>
    match ← start program arguments with
    | .ok status => return status
    | .error fault =>
      warn (complaint program ++ ": " ++ Tool.reason fault ++ "\n")
      return .exited (if fault = .missing then 127 else 126)
  | [] => return .exited 125

/-- Keeps what names stand for, and the working directory, from being changed for good. -/
def sparing {α : Type} (act : Script α) : Script α := fun s =>
  let (result, after) := act.run s
  let files := { after.machine.files with here := s.machine.files.here }
  let machine := { after.machine with files }
  (result, { after with machine, bindings := s.bindings, exported := s.exported })

/-- What the arguments of a program ask for, or how it ends if they are wrong or ask for help. -/
def usageOf (manual : Tool.Manual) (arguments : List String) :
    Script (Except ExitStatus Tool.Usage) := do
  match manual.parse (arguments.length + 1) arguments with
  | .error text =>
    warn (manual.tool ++ ": " ++ text ++ "\nTry '" ++ manual.tool ++
      " --help' for more information.\n")
    return .error (.exited manual.status)
  | .ok usage => return if usage.has '?' then .error (.exited 0) else .ok usage

/-- Complains about the arguments of a program. -/
def misused (name text : String) (status : Nat) : Script ExitStatus := do
  warn (name ++ ": " ++ text ++ "\nTry '" ++ name ++ " --help' for more information.\n")
  return .exited status

/-- The names that are handed on to programs, with their texts. -/
def environment (s : State) : List (String × String) :=
  let slot (name : String) : Nat :=
    let start := ((name.toList.head?.map Char.toNat).getD 0) * 16
    (name.toList.foldl (fun n c => n + c.toNat) start) % 39
  let names := s.exported.reverse.eraseDups
  let ordered := if s.isBash then names else names.mergeSort fun a b => slot a ≤ slot b
  ordered.filterMap fun name => (s.text? name).map fun text => (name, text)

/-- Hands names on to programs, as words with equals signs ask. -/
def handOn (settings : List String) : Script Unit :=
  settings.forM fun word => modify fun s =>
    let (name, value) := setting word
    { s with
      bindings := put name (.text (value.getD "")) s.bindings
      exported := name :: s.exported.filter (· ≠ name) }

def envManual : Tool.Manual where
  tool := "env"
  letters := "iu:0C:S:v"
  words := [("ignore-environment", .nothing, 'i'), ("unset", .text, 'u'), ("null", .nothing, '0'),
    ("chdir", .text, 'C'), ("split-string", .text, 'S'), ("debug", .nothing, 'v')]
  inOrder := true
  status := 125

/-- Runs a program for which names stand for other texts, or writes what they stand for. -/
def env (start : Start) (arguments : List String) : Script ExitStatus := do
  match ← usageOf envManual arguments with
  | .error status => return status
  | .ok usage => sparing do
    let isBare := usage.operands.head? = some "-"
    let operands := if isBare then usage.operands.tail else usage.operands
    if isBare ∨ usage.has 'i' then modify fun s => { s with exported := [] }
    modify fun s =>
      { s with exported := s.exported.filter fun name => !(usage.texts 'u').contains name }
    let split := ((usage.text? 'S').getD "").splitOn " "
    let words := split.filter (· ≠ "") ++ operands
    let settings := words.takeWhile (·.contains '=')
    handOn settings
    match words.drop settings.length with
    | [] =>
      let ending := if usage.has '0' then "\x00" else "\n"
      let lines := (environment (← get)).map fun (name, text) => name ++ "=" ++ text ++ ending
      let _ ← write 1 (Octets.bytes (String.join lines))
      return .exited 0
    | program :: words =>
      let files := (← get).machine.files
      match (usage.text? 'C').map files.find with
      | some (.error fault) =>
        let place := Tool.quoted ((usage.text? 'C').getD "")
        warn ("env: cannot change directory to " ++ place ++ ": " ++ Tool.reason fault ++ "\n")
        return .exited 125
      | found =>
        if let some (.ok (place, _)) := found then
          modify fun s => { s with machine.files.here := place }
        let status ← runFor start (fun program => "env: " ++ Tool.quoted program)
          (program :: words)
        if status = .exited 127 ∧ program.contains ' ' then
          warn "env: use -[v]S to pass options in shebang lines\n"
        return status

/-- Writes the texts that names stand for which are handed on. -/
def printenv (arguments : List String) : Script ExitStatus := do
  match ← usageOf ⟨"printenv", "0", [("null", .nothing, '0')], false, 2⟩ arguments with
  | .error status => return status
  | .ok usage =>
    let ending := if usage.has '0' then "\x00" else "\n"
    let known := environment (← get)
    let lines := if usage.operands.isEmpty then known.map fun (name, text) => name ++ "=" ++ text
      else usage.operands.filterMap (look · known)
    let _ ← write 1 (Octets.bytes (String.join (lines.map (· ++ ending))))
    let isMissing := usage.operands.any fun name => (look name known).isNone
    return .exited (if isMissing then 1 else 0)

/-- Writes the paths of programs. -/
def which (arguments : List String) : Script ExitStatus := do
  let s ← get
  let names := arguments.filter (!·.startsWith "-")
  let isAll := arguments.contains "-a"
  let directories := ((s.text? "PATH").getD "").splitOn ":"
  let found := names.map fun name =>
    if name.contains '/' then ((executable s name).toOption.map (·.path)).toList
    else
      let paths := directories.filterMap fun directory =>
        (executableAt s.machine.files (directory ++ "/" ++ name)).toOption.map (·.path)
      if isAll then paths else paths.take 1
  let _ ← write 1 (Octets.bytes (String.join (found.flatten.map (· ++ "\n"))))
  return .exited (if names.isEmpty ∨ found.any (·.isEmpty) then 1 else 0)

/-- Runs a program at another rank, or writes the rank. -/
def nice (start : Start) (arguments : List String) : Script ExitStatus := do
  let spelled : List String := match arguments with
    | word :: rest =>
      match word.toList with
      | '-' :: c :: digits =>
        if c.isDigit ∨ ((c = '-' ∨ c = '+') ∧ digits.head?.any Char.isDigit) then
          "-n" :: String.ofList (c :: digits) :: rest
        else word :: rest
      | _ => word :: rest
    | [] => []
  match ← usageOf ⟨"nice", "n:", [("adjustment", .text, 'n')], true, 125⟩ spelled with
  | .error status => return status
  | .ok usage =>
    let adjustment := usage.text? 'n'
    match adjustment.filter fun text => (Condition.integer? text).isNone with
    | some text =>
      warn ("nice: invalid adjustment " ++ Tool.quoted text ++ "\n")
      return .exited 125
    | none =>
      if !usage.operands.isEmpty then
        runFor start (fun program => "nice: " ++ Tool.quoted program) usage.operands
      else if adjustment.isSome then
        misused "nice" "a command must be given with an adjustment" 125
      else
        let _ ← write 1 (Octets.bytes "0\n")
        return .exited 0

def failedToRun (name program : String) : String :=
  name ++ ": failed to run command " ++ Tool.quoted program

/-- Runs a program that nothing hangs up. -/
def nohup (start : Start) (arguments : List String) : Script ExitStatus := do
  match ← usageOf ⟨"nohup", "", [], true, 125⟩ arguments with
  | .error status => return status
  | .ok usage =>
    if usage.operands.isEmpty then misused "nohup" "missing operand" 125
    else runFor start (failedToRun "nohup") usage.operands

/-- Runs a program by itself. -/
def setsid (start : Start) (arguments : List String) : Script ExitStatus := do
  match ← usageOf ⟨"setsid", "cfw",
    [("ctty", .nothing, 'c'), ("fork", .nothing, 'f'), ("wait", .nothing, 'w')], true, 1⟩
    arguments with
  | .error status => return status
  | .ok usage =>
    if usage.operands.isEmpty then misused "setsid" "no command specified" 1
    else runFor start (fun program => "setsid: failed to execute " ++ program) usage.operands

/-- Runs a program with other buffers. -/
def stdbuf (start : Start) (arguments : List String) : Script ExitStatus := do
  let manual : Tool.Manual := ⟨"stdbuf", "i:o:e:",
    [("input", .text, 'i'), ("output", .text, 'o'), ("error", .text, 'e')], true, 125⟩
  match ← usageOf manual arguments with
  | .error status => return status
  | .ok usage =>
    let isMode (text : String) : Bool := text == "L" || (Tool.amount? text.toList).isSome
    match usage.given.find? fun (_, text) => !isMode text with
    | some (letter, text) =>
      if letter = 'i' ∧ text = "L" then
        return ← misused "stdbuf" "line buffering stdin is meaningless" 125
      warn ("stdbuf: invalid mode " ++ Tool.quoted text ++ "\n")
      return .exited 125
    | none =>
      if usage.operands.isEmpty then misused "stdbuf" "missing operand" 125
      else if usage.given.isEmpty then
        misused "stdbuf" "you must specify a buffering mode option" 125
      else runFor start (failedToRun "stdbuf") usage.operands

/-- Runs something that has to be done in a time; if it is not, the result is nothing. -/
def within {α : Type} (time : Int) (act : Script α) : Script (Option α) := fun s =>
  let stop := s.machine.files.time + time
  if s.deadline.any (· ≤ stop) then
    let (result, after) := act.run s
    (result.map some, after)
  else
    let (result, after) := act.run { s with deadline := some stop }
    match result with
    | .ok value => (.ok (some value), { after with deadline := s.deadline })
    | .error .overdue =>
      let files := { after.machine.files with time := stop, here := s.machine.files.here }
      (.ok none, { s with machine := { after.machine with files } })
    | .error ending => (.error ending, { after with deadline := s.deadline })

def timeoutManual : Tool.Manual where
  tool := "timeout"
  letters := "k:s:v"
  words := [("foreground", .nothing, 'f'), ("kill-after", .text, 'k'),
    ("preserve-status", .nothing, 'p'), ("signal", .text, 's'), ("verbose", .nothing, 'v')]
  inOrder := true
  status := 125

/-- Runs a program that is ended if it takes too long. -/
def timeout (start : Start) (arguments : List String) : Script ExitStatus := do
  match ← usageOf timeoutManual arguments with
  | .error status => return status
  | .ok usage =>
    let name := (usage.text? 's').getD "TERM"
    let plain := if name.startsWith "SIG" then (name.drop 3).toString else name
    match Signal.number? plain, usage.operands with
    | none, _ => misused "timeout" (Tool.quoted name ++ ": invalid signal") 125
    | some signal, duration :: program :: words =>
      match Tool.interval? duration with
      | none => misused "timeout" ("invalid time interval " ++ Tool.quoted duration) 125
      | some time =>
        let act := runFor start (failedToRun "timeout") (program :: words)
        let result ← if time = 0 then do pure (some (← act)) else within time act
        match result with
        | some (.signalled number _) =>
          return (Signal.numbered? number).elim (.exited (128 + number)) Signal.status
        | some status => return status
        | none =>
          if usage.has 'v' then
            warn ("timeout: sending signal " ++ Signal.nameOf signal ++ " to command " ++
              Tool.quoted program ++ "\n")
          if signal = 9 ∧ !usage.has 'f' then
            return (Signal.numbered? 9).elim (.exited 137) Signal.status
          else return .exited (if usage.has 'p' ∨ signal = 9 then 128 + signal else 124)
    | some _, _ =>
      warn "Try 'timeout --help' for more information.\n"
      return .exited 125

end Script

end BoardDebug.Build.Shell
