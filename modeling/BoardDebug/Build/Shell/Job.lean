import BoardDebug.Build.Shell.Names

namespace BoardDebug.Build.Shell.Script

/-- Lets time pass until something is done. -/
def waitUntil (stop : Int) : Script Unit := do
  modify fun s =>
    { s with machine.files.time := max s.machine.files.time stop }
  checkTime

/-- The job that a word means: by its place among the jobs or, if it is no such word, by its
number. -/
def job? (s : State) (word : String) : Option Job :=
  match word.toList with
  | '%' :: sign =>
    if [[], ['%'], ['+']].contains sign then s.jobs.head?
    else if sign = ['-'] then s.jobs.tail.head?
    else
      match Text.digits? 10 sign with
      | some slot => s.jobs.find? fun job => job.slot = slot
      | none => none
  | _ => (word.toNat?).bind fun n => s.jobs.find? fun job => job.number = n

/-- The job that a word means by its place among the jobs, or a refusal. -/
def jobOf (word : String) : Script Job := do
  let s ← get
  match if word.startsWith "%" then job? s word else none with
  | some job => return job
  | none =>
    let text := if ["%", "%%", "%+"].contains word then "No current job"
      else if word = "%-" then "No previous job" else "No such job: " ++ word
    refuse text 2

/-- Waits for a job. A shell that controls no jobs keeps it until somebody has heard of its end. -/
def waitFor (word : String) : Script Unit := do
  let s ← get
  match job? s word, s.isBash with
  | some job, isBash =>
    waitUntil job.stop
    let known (other : Job) : Job :=
      if other.number = job.number then { other with isAwaited := true, isKnown := true } else other
    modify fun s =>
      { s with
        jobs := if isBash then s.jobs.filter (·.number ≠ job.number) else s.jobs.map known }
    let words := ((job.signal.bind Signal.numbered?).map (·.words)).getD ""
    if !isBash ∧ !job.isKnown ∧ words ≠ "" then warn (words ++ "\n")
    setStatus job.status
  | none, isBash =>
    let isJob := word.startsWith "%"
    let isNumber := (Text.digits? 10 word.toList).isSome
    if isBash then
      let text := if isJob then word ++ ": no such job"
        else if isNumber then "pid " ++ word ++ " is not a child of this shell"
        else "\x60" ++ word ++ "': not a pid or valid job spec"
      note text (if isJob ∨ isNumber then 127 else 1)
    else if isJob then
      let _ ← jobOf word
    else if isNumber then setStatus 127
    else refuse ("Illegal number: " ++ word) 2

/-- Waits for jobs. -/
def wait (words : List String) : Script Unit := do
  let s ← get
  match words with
  | "-n" :: _ =>
    match s.jobs.mergeSort fun a b => a.stop ≤ b.stop with
    | job :: _ => waitFor (toString job.number)
    | [] => setStatus 127
  | [] =>
    s.jobs.forM fun job => waitUntil job.stop
    modify fun s =>
      { s with
        jobs := if s.isBash then []
          else s.jobs.map fun job => { job with isAwaited := true, isKnown := true } }
    setStatus 0
  | words => words.forM waitFor

/-- How a job is shown among others, and what becomes of them: one that has ended is forgotten. -/
def showJob (job : Job) : Script Unit := do
  let s ← get
  let isRunning := s.machine.files.time < job.stop
  let place := s.jobs.findIdx fun other => other.number = job.number
  let mark := if place = 0 then "+" else if place = 1 then "-" else " "
  let words := (job.signal.bind Signal.numbered?).map fun signal =>
    if signal.words = "" then (if signal.number = 2 then "Interrupt" else "Broken pipe")
    else signal.words
  let state := if isRunning then "Running"
    else words.getD (if job.status = 0 then "Done" else "Done(" ++ toString job.status ++ ")")
  let blanks := String.ofList (List.replicate (27 - state.length) ' ')
  let others := String.join (List.replicate (job.parts - 1) " | ")
  tell ["[" ++ toString job.slot ++ "] " ++ mark ++ " " ++ state ++ blanks ++ others]
  if !isRunning then
    modify fun s => { s with jobs := s.jobs.filter fun other => other.number ≠ job.number }

/-- Writes which jobs there are, or their numbers. -/
def tellJobs (words : List String) : Script Unit := do
  let s ← get
  let (options, words) := letterOptions words
  match options.find? fun (_, c) => !(c == 'l' || c == 'p' || (s.isBash && "nrsx".contains c)) with
  | some (_, c) =>
    let usage := "jobs: usage: jobs [-lnprs] [jobspec ...] or jobs -x command [args]"
    refuseOption s.isBash c usage
  | none =>
    let telling (job : Job) : Script Unit :=
      if options.getLast?.any fun (_, c) => c == 'p' then tell [toString job.number]
      else showJob job
    if s.isBash then
      modify fun s =>
        { s with jobs := s.jobs.filter fun job => s.machine.files.time < job.stop }
    else if words.isEmpty then s.jobs.forM telling
    else
      words.forM fun word => do
        telling (← jobOf word)
    setStatus 0

/-- Refuses to work on a job, for which a shell that reads a script has no means. -/
def refuseJob (words : List String) : Script Unit := do
  let s ← get
  if s.isBash then note "no job control" 1
  else
    match words with
    | [] =>
      if s.jobs.isEmpty then refuse "No current job" 2
      else refuse "job (null) not created under job control" 2
    | word :: _ =>
      let _ ← jobOf word
      refuse ("job " ++ word ++ " not created under job control") 2

end BoardDebug.Build.Shell.Script
