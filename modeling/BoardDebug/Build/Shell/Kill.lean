import BoardDebug.Build.Shell.Job

namespace BoardDebug.Build.Shell.Script

/-- The signal that options ask for, and the words behind them. -/
def killOptions : (signal : Nat) → List String → Script (Nat × List String)
  | signal, [] => return (signal, [])
  | signal, word :: rest => do
    let isBash := (← get).isBash
    match word.toList with
    | ['-'] => return (signal, word :: rest)
    | ['-', '-'] => return (signal, rest)
    | ['-', 's'] => named rest
    | ['-', 'n'] => if isBash then named rest else refuse "Illegal option -n" 2
    | '-' :: 's' :: name => killOptions (← signalOf (String.ofList name)) rest
    | '-' :: c :: letters =>
      if isBash then refuse (String.ofList (c :: letters) ++ ": invalid signal specification") 1
      else refuse ("Illegal option -" ++ String.singleton c) 2
    | _ => return (signal, word :: rest)
where
  named (rest : List String) : Script (Nat × List String) := do
    match rest with
    | name :: rest => return (← signalOf name, rest)
    | [] => refuse "No arg for -s option" 2
  signalOf (spelling : String) : Script Nat := do
    let isBash := (← get).isBash
    match signalNumber? isBash spelling with
    | some number => return number
    | none =>
      if isBash then refuse (spelling ++ ": invalid signal specification") 1
      else refuse ("invalid signal number or name: " ++ spelling) 2

/-- The name of the signal behind the status of a program that it ended. -/
def tellSignal (word : String) : Script Unit := do
  let isBash := (← get).isBash
  match isBash && (Text.digits? 10 word.toList).isNone, signalNumber? isBash word with
  | true, some number =>
    let _ ← write 1 (Octets.bytes (toString number ++ "\n"))
    setStatus 0
  | true, none => refuse (word ++ ": invalid signal specification") 1
  | false, _ =>
    let status ← number word
    match Signal.number? (toString (if 128 < status then status - 128 else status)) with
    | some number =>
      let _ ← write 1 (Octets.bytes (trapName false number ++ "\n"))
      setStatus 0
    | none => refuse ("invalid signal number or exit status: " ++ word) 2

/-- Writes the names of all signals. -/
def tellSignals : Script Unit := do
  let isBash := (← get).isBash
  let numbers := List.range Signal.names.length
  let text :=
    if isBash then
      let shown := numbers.filter fun n => n ≠ 0 ∧ n ≠ 32 ∧ n ≠ 33
      let cells := shown.zipIdx.map fun (n, i) =>
        let name := (if n < 10 then " " else "") ++ toString n ++ ") " ++ trapName true n
        name ++ (if i % 5 = 4 then "\n" else "\t")
      String.join cells ++ "\n"
    else String.join (numbers.map fun n => (if n = 0 then "0" else trapName false n) ++ "\n")
  let _ ← write 1 (Octets.bytes text)
  setStatus 0

/-- Receives a signal, which ends the shell unless there is a script for it. -/
def receive (runText : Source → Script Unit) (signal : Nat) : Script Unit := do
  let s ← get
  match (look signal s.traps).filter fun _ => signal ≠ 9, Signal.numbered? signal with
  | some text, _ =>
    runText (.of text.toList)
    setStatus s.status
  | none, some signal => throw (.killed signal)
  | none, none => return ()

/-- Receives the signals that others have sent. -/
def receiveAll (runText : Source → Script Unit) : Script Unit := do
  let s ← get
  if !s.above.contains s.number then
    let (mine, others) := s.pending.partition fun (number, _) => number = s.number
    if !mine.isEmpty then
      set { s with pending := others }
      mine.reverse.forM fun (_, signal) => receive runText signal

/-- Sends a signal to a shell or a job. -/
def kill (runText : Source → Script Unit) (words : List String) : Script Unit := do
  match words with
  | ["-l"] => tellSignals
  | "-l" :: words => words.forM fun word => speaking "kill" (tellSignal word)
  | _ =>
    let isBash := (← get).isBash
    let direct := words.head?.bind fun word =>
      if word.startsWith "-" then signalNumber? isBash (word.drop 1).toString else none
    let (signal, targets) ← match direct with
      | some number => pure (number, words.tail)
      | none => speaking "kill" (killOptions 15 words)
    if targets.isEmpty then
      if isBash then
        warn ("kill: usage: kill [-s sigspec | -n signum | -sigspec] pid | jobspec ... or " ++
          "kill -l [sigspec]\n")
        setStatus 2
      else
        let usage := "Usage: kill [-s sigspec | -signum | -sigspec] [pid | job]... or\n" ++
          "kill -l [exitstatus]"
        speaking "kill" (refuse usage 2)
    else
      setStatus 0
      targets.forM (send signal)
where
  send (signal : Nat) (target : String) : Script Unit := do
    let s ← get
    let isGroup := target.startsWith "-"
    let target' := if isGroup then (target.drop 1).toString else target
    let isJob := target.startsWith "%"
    if s.isBash ∧ !isJob ∧ (Text.digits? 10 target'.toList).isNone then
      speaking "kill" (note (target ++ ": arguments must be process or job IDs") 1)
    else
      let n ← speaking "kill" (targetNumber isJob target')
      match s.jobs.find? fun job => job.number = n && s.machine.files.time < job.stop with
      | some job =>
        if (Signal.numbered? signal).isSome then
          let ended : Job :=
            { job with
              status := 128 + signal, signal := some signal, stop := s.machine.files.time }
          let change (other : Job) : Job := if other.number = n then ended else other
          set { s with jobs := s.jobs.map change }
      | none =>
        if s.above.contains n ∧ !isGroup then
          modify fun s => { s with pending := (n, signal) :: s.pending }
        else if isGroup ∨ n ≠ s.number then
          if s.isBash then
            speaking "kill" (note ("(" ++ target ++ ") - No such process") 1)
          else speaking "kill" (note "No such process\n" 1)
        else receive runText signal
  /-- The number of a process, or of a job. A shell that controls no jobs does not reach those. -/
  targetNumber (isJob : Bool) (target : String) : Script Nat := do
    if !isJob then number target
    else
      let isBash := (← get).isBash
      match job? (← get) target, isBash with
      | some job, true => return job.number
      | none, true => return 0
      | _, false =>
        let _ ← jobOf target
        return 0

end BoardDebug.Build.Shell.Script
