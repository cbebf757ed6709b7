import BoardDebug.Build.Shell.Builtin
import BoardDebug.Build.Shell.Program
import BoardDebug.Build.Shell.Redirect

namespace BoardDebug.Build.Shell.Script

/-- Complains about how a script is written. It goes no further, and in one of the languages the
shell neither. -/
def refuseSource (source : Source) (fault : Fault) : Script Unit := do
  modify fun s => { s with line := fault.line }
  let s ← get
  if s.isBash then
    let file := if s.origin = "" then s.name else s.origin
    let label := if source.label = "" then "" else source.label ++ ": "
    let start := file ++ ": " ++ label ++ "line " ++ toString fault.line ++ ": "
    let shown := ((source.rest.splitOn '\n')[fault.line - source.line]?).getD []
    warn (start ++ fault.text ++ "\n")
    if fault.isShown then warn (start ++ "\x60" ++ String.ofList shown ++ "'\n")
    setStatus 2
  else refuse fault.text 2

/-- Tells of the texts in a script whose marks have not been found. -/
def warnUnended (source : Source) : Script Unit := do
  let s ← get
  let file := if s.origin = "" then s.name else s.origin
  source.unended.reverse.forM fun (stop, start, mark) =>
    warn (file ++ ": line " ++ toString stop ++ ": warning: here-document at line " ++
      toString start ++ " delimited by end-of-file (wanted \x60" ++ String.ofList mark ++ "')\n")

/-- Runs the commands on a line. -/
def line (act : Script Unit) : Script Unit :=
  tryCatch act fun
    | .discarded status => setStatus status
    | ending => throw ending

/-- Runs the lines of a script one after the other, each as soon as it is read. -/
def lines (run : Command → Script Unit) : Nat → Source → Script Unit
  | 0, _ => return ()
  | fuel + 1, source => do
    let s ← get
    if source.rest.isEmpty then return ()
    else
      let isShown := source.isShown && s.has 'v'
      match Reading.line.on s.rules source with
      | .error fault =>
        if isShown then warn (String.ofList source.rest)
        refuseSource source fault
      | .ok (command, rest) =>
        if isShown then
          warn (String.ofList (source.rest.take (source.rest.length - rest.rest.length)))
        warnUnended rest
        if !s.has 'n' then line (run command)
        lines run fuel { rest with unended := [] }

/-- A name as it stands in a complaint that there is no such command. -/
def shownCommand (name : String) : String :=
  if name.toList.all Tool.isPrintable then name else doubleQuoted name

/-- The status of a program that a shell has run. If a signal ended it, the shell says so. -/
def noteEnd (name : String) : Except FileFault ExitStatus → Script Unit
  | .ok (.exited status) => setStatus status
  | .ok (.signalled number _) => do
    let words := ((Signal.numbered? number).map (·.words)).getD ""
    if words ≠ "" then warn (words ++ "\n")
    setStatus (128 + number)
  | .error fault => do
    let s ← get
    let isPath := name.contains '/'
    if s.isBash then
      match fault, isPath with
      | .missing, false => note (shownCommand name ++ ": command not found") 127
      | .missing, true =>
        if (executable s name).isOk then
          note (name ++ ": cannot execute: required file not found") 127
        else note (name ++ ": No such file or directory") 127
      | .notProgram, _ => note (name ++ ": cannot execute binary file: Exec format error") 126
      | fault, _ =>
        let isDirectory := fault = .denied && s.machine.files.isDirectory name
        note (name ++ ": " ++ (if isDirectory then "Is a directory" else Tool.reason fault)) 126
    else
      match fault with
      | .missing => note (name ++ ": not found") 127
      | .notDirectory => note (name ++ ": not found") 127
      | .denied => note (name ++ ": Permission denied") (if isPath then 126 else 127)
      | .notProgram => note (name ++ ": Exec format error") 126
      | fault => note (name ++ ": " ++ Tool.reason fault) 127

/-- What an assignment says: how it is shown, and what it does. -/
def assigning (runText : Source → Script Unit) (a : Assignment) :
    Script ((String × String) × Script Unit) := do
  let s ← get
  let name := String.ofList a.name
  let sign := if a.appends then "+" else ""
  match a.item, a.value with
  | none, [.items text] =>
    let shown := (name ++ sign, "(" ++ String.ofList text ++ ")")
    return (shown, assignItems runText name text a.appends)
  | item, value =>
    let text ← valueOf runText value
    let shown := if s.isBash then tracedValue text else text
    match item with
    | none => return ((name ++ sign, shown), assignText name text a.appends)
    | some item =>
      let key := String.ofList (Atom.text (← atoms runText maxNesting item))
      let old ← if a.appends then do
          let change := ('[' :: key.toList) ++ [']']
          let (content, _) ← contentOf (atoms runText maxNesting) a.name change
          match content with
          | .one (some old) => pure old
          | _ => pure ""
        else pure ""
      let act := assignAt (atoms runText maxNesting) name (Word.ofText key.toList) (old ++ text)
      return ((name ++ "[" ++ key ++ "]" ++ sign, shown), act)

/-- Lets names stand for what assignments say. -/
def assignAll (runText : Source → Script Unit) (assigned : List Assignment) :
    Script (List (String × String)) :=
  assigned.mapM fun a => do
    let (shown, act) ← assigning runText a
    act
    return shown

/-- Runs something while names stand for other values, which are handed on. `done` is what has
been assigned. -/
def withBindings (runText : Source → Script Unit) (act : List (String × String) → Script Unit) :
    (done : List (String × String)) → List Assignment → Script Unit
  | done, [] => act done.reverse
  | done, a :: rest => do
    let name := String.ofList a.name
    let (shown, change) ← assigning runText a
    fun s =>
      let changed : Script Unit := do
        tryCatch change fun
          | .discarded _ => return ()
          | ending => throw ending
        modify fun s => { s with exported := name :: s.exported }
        withBindings runText act (shown :: done) rest
      let (result, after) := changed.run s
      (result, { restore name (look name s.bindings) after with exported := s.exported })

/-- How deep calls of functions may be nested. -/
def maxCalls : Nat := 1000

/-- Runs the body of a function. -/
def call (name : String) (function : Function) (body : Script Unit) (words : List String) :
    Script Unit := do
  if (← get).frames.length = maxCalls then
    refuse ("Maximum function recursion depth (" ++ toString maxCalls ++ ") reached") 2
  else inside
where
  inside : Script Unit := fun s =>
    let inner := { s with
      arguments := words
      frames := { function := name } :: s.frames
      loops := 0
      origin := if s.isBash then function.origin else s.origin }
    let (result, after) := body.run inner
    let frame := after.frames.headD { function := name }
    let restored := frame.bindings.foldl (fun after (name, old) => restore name old after) after
    let after := { restored with
      arguments := s.arguments
      frames := s.frames
      loops := s.loops
      origin := s.origin
      options := frame.options.getD after.options }
    match result with
    | .error (.returned status) => (.ok (), { after with status })
    | result => (result, after)

/-- Does what has to be done if a command has failed and that matters. -/
def check (runText : Source → Script Unit) (tested : Bool) : Script Unit := do
  let s ← get
  if !tested ∧ s.status ≠ 0 then
    if s.frames.isEmpty ∨ s.has 'E' then
      if let some text := look 65 s.traps then
        set { s with traps := s.traps.filter fun (n, _) => n ≠ 65 }
        runText (.of text.toList)
        modify fun after => { after with status := s.status, traps := s.traps }
    if s.has 'e' then throw (.exited s.status)

/-- The commands whose arguments may be assignments, which are not split. -/
def assigners : Dialect → List String
  | .sh => ["alias", "export", "local", "readonly"]
  | .bash => ["alias", "declare", "export", "local", "readonly", "typeset"]

/-- The fields of the words of a command. -/
def commandFields (runText : Source → Script Unit) (words : List Word) : Script (List String) := do
  let dialect := (← get).dialect
  words.foldlM
    (fun fields word => do
      let name := (fields.filter (· ≠ "command")).head?
      let assignment? := if name.any (assigners dialect).contains then word.assignment? dialect
        else none
      match assignment? with
      | some a =>
        let item ← match a.item with
          | some item => do
            pure ("[" ++ String.ofList (Atom.text (← atoms runText maxNesting item)) ++ "]")
          | none => pure ""
        let sign := if a.appends then "+=" else "="
        return fields ++ [String.ofList a.name ++ item ++ sign ++ (← valueOf runText a.value)]
      | none => return fields ++ (← fieldsOf runText word))
    []

/-- How the words of a command are meant. -/
inductive Manner where
  | plain
  /-- Functions are passed over, and nothing ends the shell. -/
  | bare
  /-- Only parts of the shell are meant. -/
  | builtin
  /-- Commands are not run; it is said what they are. -/
  | telling (isLong : Bool)
  | misused (letter : Char)
deriving DecidableEq

/-- How the words of a command are meant, and those behind the ones that say so. -/
def mannerOf (isBash : Bool) : Nat → List String → Manner × List String
  | 0, words => (.plain, words)
  | fuel + 1, words =>
    match words with
    | "command" :: rest =>
      let (options, rest) := letterOptions rest
      let has (letter : Char) : Bool := options.any fun (_, c) => c == letter
      match options.find? fun (_, c) => !(['p', 'v', 'V'].contains c) with
      | some (_, c) => (.misused c, rest)
      | none =>
        if has 'v' ∨ has 'V' then (.telling (has 'V'), rest)
        else
          match mannerOf isBash fuel rest with
          | (.plain, words) => (.bare, words)
          | other => other
    | "builtin" :: rest => if isBash then (.builtin, rest) else (.plain, words)
    | words => (.plain, words)

/-- Runs a program in place of the shell, or only gives that other flows. -/
def execute (runText : Source → Script Unit) (fuel : Nat) (numbers : List (Nat × Nat))
    (words : List String) : Script Unit := do
  let s ← get
  let words ← if s.isBash then
      match (⟨"exec", "a:cl", [], true, 2⟩ : Tool.Manual).parse (words.length + 1) words with
      | .ok usage => pure usage.operands
      | .error _ => pure words
    else pure (if words.head? = some "--" then words.tail else words)
  match words with
  | [] =>
    modify fun s => { s with numbers, status := 0 }
  | program :: words =>
    match ← withNumbers numbers (launch runText fuel (some s.dialect) program words) with
    | .ok status =>
      modify fun s => { s with traps := [] }
      match status with
      | .exited status => throw (.exited status)
      | .signalled number _ =>
        match Signal.numbered? number with
        | some signal => throw (.killed signal)
        | none => throw (.exited (128 + number))
    | .error fault =>
      let isAbsent := s.isBash && fault == .missing && !program.contains '/'
      withNumbers numbers do
        if isAbsent then speaking "exec" (note (program ++ ": not found") 127)
        else speaking "exec" (noteEnd program (.error fault))
      throw (.exited (← get).status)

/-- Runs a program that a shell is told to run. -/
def runProgram (runText : Source → Script Unit) (fuel : Nat) (name : String)
    (words : List String) : Script Unit := do
  let s ← get
  if !name.contains '/' ∧ (executable s name).isOk then learn name
  noteEnd name (← withChild (launch runText fuel (some s.dialect) name words))

/-- Runs what the words of a command say. -/
def runWords (run : Command → Script Unit) (runText : Source → Script Unit) (fuel : Nat)
    (manner : Manner) (name : String) (words : List String) : Script Unit := do
  let s ← get
  let isPart := Reading.specialBuiltins.contains name || (builtins s.dialect).contains name
  let function? := if manner = .plain then look name s.functions else none
  match manner, function? with
  | _, some function => call name function (run function.body) words
  | .builtin, none =>
    if isPart then bearing (runPart runText name words)
    else speaking "builtin" (note (name ++ ": not a shell builtin") 1)
  | _, none =>
    if isPart then bearing (runPart runText name words) else runProgram runText fuel name words

/-- Runs a command that consists of words. -/
def simple (run : Command → Script Unit) (runText : Source → Script Unit) (fuel line : Nat)
    (assigned : List Assignment) (words : List Word) (given : List Redirection) :
    Script Unit := do
  modify fun s => { s with line, outputStatus := none }
  let fields ← commandFields runText words
  let s ← get
  let before := s.numbers
  let redirected ← redirect runText given before
  let (manner, command) := mannerOf s.isBash fields.length fields
  let tell (values : List (String × String)) : Script Unit :=
    trace runText before (traceOf s.isBash values fields)
  let isSpecial := !s.isBash && command.head?.any Reading.specialBuiltins.contains
  match manner, command, redirected with
  | .plain, [], none => return ()
  | .plain, [], some numbers =>
    withNumbers numbers do
      tell (← assignAll runText assigned)
      setStatus ((← get).outputStatus.getD 0)
  | manner, name :: _, none =>
    if isSpecial ∧ manner = .plain ∧ name ≠ "" then throw (.refused 2)
  | _, [], none => return ()
  | .telling isLong, names, some numbers =>
    tell []
    withNumbers numbers (speaking "command" (tellCalling isLong names))
  | .misused letter, _, some numbers =>
    tell []
    let usage := "command: usage: command [-pVv] command [arg ...]"
    withNumbers numbers (speaking "command" (bearing (refuseOption s.isBash letter usage)))
  | _, [], some _ =>
    tell []
    setStatus 0
  | _, "exec" :: words, some numbers =>
    tell (← withNumbers numbers (assignAll runText assigned))
    execute runText fuel numbers words
  | _, name :: words, some numbers =>
    if isSpecial then
      tell (← withNumbers numbers (assignAll runText assigned))
      let act := withNumbers numbers (runPart runText name words)
      if manner = .plain then act else bearing act
    else
      let act (values : List (String × String)) : Script Unit := do
        tell values
        runWords run runText fuel manner name words
      withNumbers numbers (withBindings runText act [] assigned)

/-- One round of a loop; the result says whether there may be another. -/
def round (body : Script Unit) : Script Bool := fun s =>
  match body.run { s with loops := s.loops + 1 } with
  | (.ok (), after) => (.ok true, { after with loops := s.loops })
  | (.error (.left loops goesOn), after) =>
    let after := { after with loops := s.loops }
    if loops ≤ 1 then (.ok goesOn, after) else (.error (.left (loops - 1) goesOn), after)
  | (.error ending, after) => (.error ending, after)

/-- Rounds of a loop, as long as a condition holds or does not. -/
def rounds (goesOn : Bool) (condition body : Script Unit) : Nat → (status : Nat) → Script Unit
  | 0, _ => throw .stuck
  | fuel + 1, status => do
    if ← round condition then
      if ((← get).status == 0) == goesOn then
        if ← round body then rounds goesOn condition body fuel (← get).status
      else setStatus status

/-- The value of an expression between brackets. -/
def sum (runText : Source → Script Unit) (expression : List Char) : Script Int := do
  trace runText (← get).numbers ["(( " ++ String.ofList expression ++ " ))"]
  let give (text : String) : Script Int := refuse text 1
  speaking "((" do
    let word ← expressionIn expression
    valueIn give (Atom.text (← atoms runText maxNesting word))

/-- Rounds of a loop that counts, as long as an expression has a value other than zero. -/
def counted (condition : Script Bool) (step body : Script Unit) : Nat → Script Unit
  | 0 => throw .stuck
  | fuel + 1 => do
    if ← condition then
      if ← round body then
        step
        counted condition step body fuel

/-- Whether a text fits one of some patterns. -/
def fitsOne (runText : Source → Script Unit) (text : String) : List Word → Script Bool
  | [] => return false
  | word :: rest => do
    let pattern ← patternOf runText word
    if pattern.acceptsAs ((← get).features.contains "nocasematch") text then return true
    else fitsOne runText text rest

/-- Runs the commands of the first case that a text fits, and of others behind it if the case goes
on with them. -/
def cases (run : Command → Script Unit) (runText : Source → Script Unit) (text : String) :
    (isOpen isNew : Bool) → List (List Word × Command × Onward) → Script Unit
  | _, isNew, [] => if isNew then setStatus 0 else return ()
  | isOpen, isNew, (words, body, onward) :: rest => do
    let isMeant ← if isOpen then pure true else fitsOne runText text words
    if isMeant then
      match body with
      | .nothing => setStatus 0
      | body => run body
      match onward with
      | .leave => return ()
      | .fall => cases run runText text true false rest
      | .test => cases run runText text false false rest
    else cases run runText text false isNew rest

/-- The time from which on it matters how long something takes. -/
def longTime : Int := 1000000

/-- Runs something and goes back to the time before, if it took long. The result is when it was
done. -/
def meanwhile (act : Script Unit) : Script Int := do
  let start := (← get).machine.files.time
  act
  let stop := (← get).machine.files.time
  if longTime < stop - start then
    modify fun s => { s with machine.files.time := start }
  return stop

/-- How many programs a pipe has. -/
def partsOf : Command → Nat
  | .pipe _ second => partsOf second + 1
  | _ => 1

/-- Runs something beside the shell. Two signals mean nothing to it that come from a keyboard. -/
def beside (parts : Nat) (act : Script Unit) : Script Unit := do
  let deaf : Script Unit := fun s =>
    let (result, after) := act.run { s with traps := put 2 "" (put 3 "" s.traps) }
    (result, { after with traps := s.traps })
  let stop ← meanwhile deaf
  modify fun s =>
    let number := (s.lastJob.getD s.number) + 1
    let slots := s.jobs.map (·.slot)
    let free := ((List.range (s.jobs.length + 1)).map (· + 1)).find? (!slots.contains ·)
    let job : Job := { slot := free.getD 1, number, status := s.status, stop, parts }
    { s with jobs := job :: s.jobs, lastJob := some number, status := 0 }

/-- Notes how the parts of a pipe ended. -/
def noteStatuses (first : Nat) (isMore : Bool) : Script Unit :=
  modify fun s =>
    let statuses := first :: (if isMore then s.statuses else [s.status])
    let failed := (statuses.reverse.find? (· ≠ 0)).getD 0
    { s with
      statuses
      status := if s.features.contains "pipefail" then failed else s.status }

/-- Runs a command. A failure that is `tested` does not end the shell. -/
def perform : Nat → (tested : Bool) → Command → Script Unit
  | 0, _, _ => throw .stuck
  | fuel + 1, tested, command => do
    let runText (source : Source) : Script Unit :=
      lines (perform fuel tested) (source.rest.length + 1) source
    let single : Script Unit := modify fun s => { s with statuses := [s.status] }
    match command with
    | .nothing => return ()
    | .simple line assigned words given =>
      simple (perform fuel tested) runText fuel line assigned words given
      receiveAll runText
      single
      check runText tested
    | .redirected line body given =>
      modify fun s => { s with line }
      match ← redirect runText given (← get).numbers with
      | some numbers => withNumbers numbers (perform fuel tested body)
      | none => check runText tested
    | .join first joint second =>
      match joint with
      | .always =>
        perform fuel tested first
        perform fuel tested second
      | .onSuccess =>
        perform fuel true first
        if (← get).status = 0 then perform fuel tested second
      | .onFailure =>
        perform fuel true first
        if (← get).status ≠ 0 then perform fuel tested second
    | .pipe first second =>
      let flow ← addFlow (.bytes [])
      let numbers := (← get).numbers
      let stop ← meanwhile
        (withNumbers (joinNumber 1 flow numbers) (apart runText (perform fuel tested first)))
      let status := (← get).status
      let isMore := second matches .pipe _ _
      withNumbers (joinNumber 0 flow numbers) <|
        if isMore then perform fuel tested second else apart runText (perform fuel tested second)
      modify fun s => { s with machine.files.time := max s.machine.files.time stop }
      checkTime
      receiveAll runText
      noteStatuses status isMore
      check runText tested
    | .not body =>
      perform fuel true body
      let s ← get
      setStatus (if s.status = 0 then 1 else 0)
    | .beside body =>
      let flow ← addFlow .nowhere
      let numbers := joinNumber 0 flow (← get).numbers
      beside (partsOf body) (withNumbers numbers (apart runText (perform fuel tested body)))
    | .apart body =>
      let isBash := (← get).isBash
      apart runText do
        if isBash then modify fun s => { s with loops := 0 }
        perform fuel tested body
      receiveAll runText
      single
      check runText tested
    | .branch condition yes no =>
      perform fuel true condition
      if (← get).status = 0 then perform fuel tested yes
      else
        match no with
        | .nothing => setStatus 0
        | no => perform fuel tested no
    | .loop goesOn condition body =>
      rounds goesOn (perform fuel true condition) (perform fuel tested body) fuel 0
    | .each line name words body =>
      modify fun s => { s with line }
      let values ← match words with
        | some words => do pure (← words.mapM (fieldsOf runText)).flatten
        | none => do pure (← get).arguments
      let spelled := (words.getD []).map fun word => String.ofList (word.spelled (word.length + 1))
      let isBash := (← get).isBash
      if values.isEmpty then setStatus 0
      let _ ← values.foldlM
        (fun goesOn value => do
          if goesOn then
            if isBash then
              trace runText (← get).numbers
                ["for " ++ String.ofList name ++ " in " ++ " ".intercalate spelled]
            assign (String.ofList name) value
            round (perform fuel tested body)
          else return false)
        true
    | .choice line word items =>
      modify fun s => { s with line }
      if (← get).isBash then
        trace runText (← get).numbers
          ["case " ++ String.ofList (word.spelled (word.length + 1)) ++ " in"]
      let text ← textOf runText word
      cases (perform fuel tested) runText text false true items
    | .function name body =>
      modify fun s =>
        let origin := if s.origin ≠ "" then s.origin
          else if s.has 'c' then "environment" else s.name
        { s with functions := put (String.ofList name) ⟨body, origin⟩ s.functions, status := 0 }
    | .clause line clause =>
      modify fun s => { s with line }
      bearing <| speaking "[[" do
        setStatus (if ← decideClause runText false clause then 0 else 1)
      single
      check runText tested
    | .sum line expression =>
      modify fun s => { s with line }
      bearing do
        setStatus (if (← sum runText expression) = 0 then 1 else 0)
      single
      check runText tested
    | .count line start condition step body =>
      modify fun s => { s with line }
      let value (text : List Char) : Script Int :=
        if (Blank.trim text).isEmpty then return 1 else sum runText text
      let isOn : Script Bool := do
        return (← value condition) ≠ 0
      let act (text : List Char) : Script Unit := do
        let _ ← value text
      bearing do
        act start
        setStatus 0
        counted isOn (act step) (perform fuel tested body) fuel

end Script

/-- More steps than a script takes that ends. -/
def maxSteps : Nat := 20000

end BoardDebug.Build.Shell
