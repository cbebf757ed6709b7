import BoardDebug.Build.Regex.Reading
import BoardDebug.Build.Shell.Kill
import BoardDebug.Build.Shell.Line
import BoardDebug.Build.Shell.Names
import BoardDebug.Build.Shell.Option
import BoardDebug.Build.Shell.Output
import BoardDebug.Build.Shell.Place
import BoardDebug.Build.Shell.Search
import BoardDebug.Build.Shell.Trace

namespace BoardDebug.Build.Shell.Script

/-- What the next option among words is. -/
inductive NextOption where
  | over
  | known (letter : Char)
  | withText (letter : Char) (text : String)
  | unknown (letter : Char)
  | lacksText (letter : Char)

/-- The next option, the number of the word behind which the search goes on, and how much of the
word before has been seen if it is not over. -/
def nextOption (letters : List Char) (words : List String) (index : Nat) (offset : Option Nat) :
    NextOption × Nat × Option Nat :=
  let left := match offset with
    | some offset => (words[index - 2]?.map fun word => word.toList.drop offset).getD []
    | none => []
  if !left.isEmpty ∧ 1 < index then letter left index
  else
    match words[index - 1]?.map String.toList with
    | some ['-', '-'] => (.over, index + 1, none)
    | some ('-' :: c :: rest) => letter (c :: rest) (index + 1)
    | _ => (.over, index, none)
where
  letter (left : List Char) (index : Nat) : NextOption × Nat × Option Nat :=
    match left with
    | [] => (.over, index, none)
    | c :: rest =>
      let seen := ((words[index - 2]?.map String.length).getD 0) - rest.length
      match (letters.dropWhile (· = ':')).dropWhile (· ≠ c) with
      | _ :: ':' :: _ =>
        if !rest.isEmpty then (.withText c (String.ofList rest), index, none)
        else
          match words[index - 1]? with
          | some text => (.withText c text, index + 1, none)
          | none => (.lacksText c, index, some seen)
      | _ :: _ => (if c = ':' then .unknown c else .known c, index, some seen)
      | [] => (.unknown c, index, some seen)

/-- Lets a name stand for the next option among words. -/
def getopts (words : List String) : Script Unit := do
  let s ← get
  match words with
  | letters :: name :: others =>
    let words := if others.isEmpty then s.arguments else others
    let (found, index, offset) := nextOption letters.toList words s.optionIndex s.optionOffset
    let isSilent := letters.startsWith ":"
    let noText : Script Unit := forget "OPTARG"
    let complainOf (text : String) : Script Unit := do
      if s.isBash then
        if s.text? "OPTERR" ≠ some "0" then warn (s.name ++ ": " ++ text ++ "\n")
      else warn (text ++ "\n")
    let letter ← match found with
      | .over => do
        if s.isBash then noText
        pure '?'
      | .known c => do
        if s.isBash then noText else assign "OPTARG" ""
        pure c
      | .withText c text => do
        assign "OPTARG" text
        pure c
      | .unknown c => do
        if isSilent then assign "OPTARG" (String.singleton c)
        else
          let text := if s.isBash then "illegal option -- " else "Illegal option -"
          complainOf (text ++ String.singleton c)
          noText
        pure '?'
      | .lacksText c => do
        if isSilent then
          assign "OPTARG" (String.singleton c)
          pure ':'
        else
          let c := String.singleton c
          complainOf (if s.isBash then "option requires an argument -- " ++ c
            else "No arg for -" ++ c ++ " option")
          noText
          pure '?'
    assign "OPTIND" (toString index)
    modify fun s => { s with optionIndex := index, optionOffset := offset }
    if isName name.toList then
      assign name (String.singleton letter)
      setStatus (if found matches .over then 1 else 0)
    else if s.isBash then note ("\x60" ++ name ++ "': not a valid identifier") 1
    else refuse (name ++ ": bad variable name") 2
  | _ =>
    if s.isBash then
      warn "getopts: usage: getopts optstring name [arg ...]\n"
      setStatus 2
    else refuse "Usage: getopts optstring var [arg...]" 2

/-- Whether an option is on, by its name. -/
def isNamedOptionOn (s : State) (name : String) : Bool :=
  match look name (optionNames s.dialect) with
  | some letter => isOptionOn s name letter
  | none => false

/-- The description that a pattern spells, in which quoted characters stand for themselves. -/
def regexText (pattern : Pattern) : List Char :=
  pattern.flatMap fun (c, isQuoted) =>
    if isQuoted && "\\^$.[]|()*+?\x7b\x7d".toList.contains c then ['\\', c] else [c]

/-- Whether a text has a part that fits a description. The parts of that are kept under a name. -/
def fitsRegex (text : String) (pattern : Pattern) : Script Bool := do
  let ignoresCase := (← get).features.contains "nocasematch"
  match Regex.read .extended (regexText pattern) with
  | .error _ => throw (.refused 2)
  | .ok (regex, groups) =>
    let chars := text.toList
    let found := regex.find? { ignoresCase } chars 0
    let parts := match found with
      | some found => (List.range (groups + 1)).map fun n => String.ofList (found.text chars n)
      | none => []
    setValue "BASH_REMATCH" (.list ((List.range parts.length).zip parts))
    return found.isSome

/-- Whether a condition with two operands holds. -/
def decideBinary (runText : Source → Script Unit) (show' : String → Script Unit)
    (left : Word) (sign : String) (right : Word) : Script Bool := do
  let s ← get
  let text ← textOf runText left
  let shown (text : String) : String := if text = "" then "''" else text
  let say (other : String) : Script Unit :=
    show' (shown text ++ " " ++ sign ++ " " ++ shown other)
  if ["==", "=", "!=", "=~"].contains sign then
    let pattern ← patternOf runText right
    let spelled := pattern.flatMap fun (c, isQuoted) => if isQuoted then ['\\', c] else [c]
    say (String.ofList spelled)
    if sign = "=~" then fitsRegex text pattern
    else return pattern.acceptsAs (s.features.contains "nocasematch") text != (sign == "!=")
  else
    let other ← textOf runText right
    say other
    if ["<", ">", "-nt", "-ot", "-ef"].contains sign then
      return ((Condition.relates s.machine.files sign text other).toOption).getD false
    else
      let a ← evaluate text.toList
      let b ← evaluate other.toList
      return Condition.compares sign a b

/-- Whether a condition in brackets holds. -/
def decideClause (runText : Source → Script Unit) (isTurned : Bool) : Clause → Script Bool
  | .word w => do
    let text ← textOf runText w
    show' ("-n " ++ if text = "" then "''" else text)
    return !text.isEmpty
  | .unary sign operand => do
    let text ← textOf runText operand
    show' (sign ++ " " ++ if text = "" then "''" else text)
    let s ← get
    if sign = "-v" ∨ sign = "-o" ∨ sign = "-R" then
      return isSetOrOn s (isNamedOptionOn s) sign text
    else return ((Condition.holdsOf s.machine.files sign text).toOption).getD false
  | .binary left sign right => decideBinary runText show' left sign right
  | .not clause => do
    return !(← decideClause runText true clause)
  | .both first second => do
    if ← decideClause runText false first then decideClause runText false second else return false
  | .either first second => do
    if ← decideClause runText false first then return true else decideClause runText false second
where
  show' (text : String) : Script Unit := do
    trace runText (← get).numbers ["[[ " ++ (if isTurned then "! " else "") ++ text ++ " ]]"]

end BoardDebug.Build.Shell.Script

namespace BoardDebug.Build.Shell.Script

/-- Runs a text as a script. -/
def evaluateText (runText : Source → Script Unit) (words : List String) : Script Unit := do
  let s ← get
  setStatus 0
  let text := (" ".intercalate words).toList
  if s.isBash then
    let source : Source :=
      { rest := text, line := s.line, isShown := true, label := "eval" }
    deeper (runText source)
  else speaking "eval" (runText (.of text))

/-- Finds a file of commands. -/
def commandFile (s : State) (path : String) : Except FileFault String :=
  let files := s.machine.files
  if path.contains '/' then .ok path
  else
    let isFile (path : String) : Bool := match files.find path with
      | .ok (_, node) => (node.body matches .file _)
      | .error _ => false
    let paths := (((s.text? "PATH").getD "").splitOn ":").map fun directory =>
      if directory = "" then path else directory ++ "/" ++ path
    match (paths ++ if s.isBash then [path] else []).find? isFile with
    | some found => .ok found
    | none => .error .missing

/-- Runs a file of commands, with arguments of its own if the language has that. -/
def inFile (runText : Source → Script Unit) (path : String) (arguments : List String)
    (bytes : Bytes) : Script Unit := do
  let source : Source := { Source.of (Octets.ofBytes (bytes.filter (· ≠ 0))) with isShown := true }
  setStatus 0
  let act : Script Unit :=
    tryCatch (runText source) fun
      | .returned status => setStatus status
      | ending => throw ending
  if (← get).isBash then inside (deeper act) else speaking path act
where
  inside (act : Script Unit) : Script Unit := fun s =>
    let own := if arguments.isEmpty then s.arguments else arguments
    let (result, after) :=
      act.run { s with origin := path, isSourced := true, arguments := own, loops := 0 }
    let arguments' := if arguments.isEmpty then after.arguments else s.arguments
    (result, { after with
      origin := s.origin, isSourced := s.isSourced, line := s.line, loops := s.loops
      arguments := arguments' })

/-- Runs the commands in a file. -/
def source (runText : Source → Script Unit) (speaker : String) (words : List String) :
    Script Unit := do
  let s ← get
  match if words.head? = some "--" then words.tail else words with
  | [] =>
    if s.isBash then
      speaking speaker (note "filename argument required" 2)
      warn (speaker ++ ": usage: " ++ speaker ++ " filename [arguments]\n")
    else setStatus 0
  | path :: arguments =>
    match s.isBash, (commandFile s path).bind s.machine.files.contents with
    | _, .ok bytes => inFile runText ((commandFile s path).toOption.getD path) arguments bytes
    | true, .error .isDirectory => speaking speaker (note (path ++ ": is a directory") 1)
    | true, .error fault => note (path ++ ": " ++ Tool.reason fault) 1
    | false, .error .isDirectory => setStatus 0
    | false, .error _ =>
      speaking "." <|
        if path.contains '/' then refuse ("cannot open " ++ path ++ ": No such file") 2
        else refuse (path ++ ": not found") 2

/-- Evaluates expressions; the last of them says whether that succeeds. -/
def evaluateAll (words : List String) : Script Unit := do
  if words.isEmpty then note "expression expected" 1
  else
    let give (text : String) : Script Int := refuse text 1
    let last ← words.foldlM (fun _ word => valueIn give word.toList) 0
    setStatus (if last = 0 then 1 else 0)

/-- Sets options by their names, or writes whether they are on. -/
def setFeatures (words : List String) : Script Unit := do
  let (options, names) := letterOptions words
  let has (letter : Char) : Bool := options.any fun (_, c) => c == letter
  match options.find? fun (_, c) => !(['s', 'u', 'q', 'p', 'o'].contains c) with
  | some (_, c) => refuseOption true c "shopt: usage: shopt [-pqsu] [-o] [optname ...]"
  | none =>
    let s ← get
    let known (name : String) : Bool :=
      if has 'o' then (optionNames .bash).any fun (n, _) => n == name
      else shellFeatures.contains name
    let isOn (name : String) : Bool :=
      if has 'o' then isNamedOptionOn s name else s.features.contains name
    let all := if has 'o' then (optionNames .bash).map (·.1) else shellFeatures
    let shown := if !names.isEmpty then names
      else if has 's' then all.filter isOn
      else if has 'u' then all.filter (!isOn ·)
      else all
    setStatus 0
    shown.forM fun name => do
      if !known name then
        note (name ++ ": invalid " ++ (if has 'o' then "option name" else "shell option name")) 1
      else if !names.isEmpty ∧ (has 's' ∨ has 'u') then
        if has 'o' then setNamed false (has 's') name else setFeature (has 's') name
      else
        let line := if has 'p' then
            (if has 'o' then "set " ++ (if isOn name then "-o " else "+o ")
              else "shopt " ++ (if isOn name then "-s " else "-u ")) ++ name
          else name ++ String.ofList (List.replicate (15 - name.length) ' ') ++ "\t" ++
            (if isOn name then "on" else "off")
        if !has 'q' then
          let _ ← write 1 (Octets.bytes (line ++ "\n"))
        if !isOn name ∧ !names.isEmpty then setStatus 1

/-- Lets a name stand for the lines that can be read. -/
def readLines (words : List String) : Script Unit := do
  let manual : Tool.Manual := ⟨"mapfile", "d:n:O:s:tu:C:c:", [], true, 2⟩
  match manual.parse (words.length + 1) words with
  | .error _ =>
    let option := (words.find? (·.startsWith "-")).getD ""
    note (option ++ ": invalid option") 2
    warn ("mapfile: usage: mapfile [-d delim] [-n count] [-O origin] [-s count] [-t] [-u fd] " ++
      "[-C callback] [-c quantum] [array]\n")
  | .ok usage =>
    let number (letter : Char) : Nat := ((usage.text? letter).bind (·.toNat?)).getD 0
    let mark : UInt8 := match (usage.text? 'd').map String.toList with
      | some (c :: _) => .ofNat c.toNat
      | some [] => 0
      | none => 10
    let channel := number 'u'
    let bytes ← available channel
    let (lines, isEnded) := Tool.splitLines mark bytes
    let ended := lines.zipIdx.map fun (line, i) =>
      if usage.has 't' ∨ (i + 1 = lines.length ∧ !isEnded) then line else line ++ [mark]
    let count := if number 'n' = 0 then lines.length else number 's' + number 'n'
    let taken := if number 'n' = 0 then bytes.length
      else (lines.take count).foldl (fun taken line => taken + line.length + 1) 0
    consume channel (min taken bytes.length)
    let kept := (ended.take count).drop (number 's')
    let name := usage.operands.headD "MAPFILE"
    let old := match look name (← get).bindings with
      | some (.list items) => if usage.has 'O' then items else []
      | _ => []
    let items := kept.zipIdx.foldl
      (fun items (line, i) => putItem (number 'O' + i) (Octets.text (line.filter (· ≠ 0))) items)
      old
    setValue name (.list items)
    setStatus 0

/-- Writes the directories to which one may come back. -/
def tellStack (isLong : Bool) : Script Unit := do
  let s ← get
  let all := s.here :: s.stack
  if isLong then tell (all.zipIdx.map fun (path, i) => " " ++ toString i ++ "  " ++ path)
  else tell [" ".intercalate all]

/-- Goes to a directory from which one may come back. -/
def pushDirectory (words : List String) : Script Unit := do
  let s ← get
  match words, s.stack with
  | [], [] => note "no other directory" 1
  | [], top :: rest =>
    changeDirectory [top]
    modify fun after => { after with stack := s.here :: rest }
    tellStack false
  | path :: _, stack =>
    changeDirectory [path]
    if (← get).status = 0 then
      modify fun after => { after with stack := s.here :: stack }
      tellStack false

/-- Goes back to a directory. -/
def popDirectory : Script Unit := do
  match (← get).stack with
  | [] => note "directory stack empty" 1
  | top :: rest =>
    changeDirectory [top]
    modify fun after => { after with stack := rest }
    tellStack false

/-- Does what a tool does that is a part of the shell. -/
def builtin (runText : Source → Script Unit) (name : String) (words : List String) :
    Script Unit := do
  let s ← get
  match name with
  | "true" => setStatus 0
  | "false" => setStatus 1
  | "echo" => echo words
  | "printf" => printf words
  | "test" => test (isNamedOptionOn s) words
  | "[" =>
    if words.getLast? = some "]" then test (isNamedOptionOn s) words.dropLast
    else refuse (if s.isBash then "missing \x60]'" else "missing ]") 2
  | "read" => read words
  | "cd" => changeDirectory words
  | "pwd" => tellDirectory words
  | "kill" => kill runText words
  | "wait" => wait words
  | "type" => describe words
  | "hash" => hash words
  | "umask" => changeMask words
  | "getopts" => getopts words
  | "alias" => setAliases words
  | "unalias" => dropAliases words
  | "jobs" => tellJobs words
  | "fg" => refuseJob words
  | "bg" => refuseJob words
  | "ulimit" => if words.isEmpty then tell ["unlimited"] else setStatus 0
  | "let" => evaluateAll words
  | "declare" => declare runText "declare" words
  | "typeset" => declare runText "typeset" words
  | "shopt" => setFeatures words
  | "source" => source runText name words
  | "mapfile" => readLines words
  | "readarray" => readLines words
  | "pushd" => pushDirectory words
  | "popd" => popDirectory
  | "dirs" => tellStack (words.contains "-v")
  | "suspend" => note "cannot suspend: no job control" 1
  | "disown" => if s.jobs.isEmpty then note "current: no such job" 1 else setStatus 0
  | _ => setStatus 0

/-- Ends the shell. -/
def exit (words : List String) : Script Unit := do
  let s ← get
  match words with
  | [] => throw (.exited s.status)
  | word :: others =>
    if s.isBash then
      match Condition.integer? word with
      | some n =>
        if others.isEmpty then throw (.exited (n.emod 256).toNat) else note "too many arguments" 1
      | none =>
        complain (word ++ ": numeric argument required")
        throw (.exited 2)
    else throw (.exited (← number word))

/-- Leaves a function. -/
def leaveFunction (words : List String) : Script Unit := do
  let s ← get
  if s.isBash ∧ s.frames.isEmpty ∧ !s.isSourced then
    note "can only \x60return' from a function or sourced script" 2
  else
    match words, s.isBash with
    | [], _ => throw (.returned s.status)
    | word :: _, false => throw (.returned (← number word))
    | word :: _, true =>
      match Condition.integer? word with
      | some n => throw (.returned (n.emod 256).toNat)
      | none =>
        complain (word ++ ": numeric argument required")
        throw (.returned 2)

/-- Leaves loops, or goes on with their next rounds. -/
def leaveLoops (goesOn : Bool) (words : List String) : Script Unit := do
  let s ← get
  setStatus 0
  if s.isBash ∧ s.loops = 0 then
    note "only meaningful in a \x60for', \x60while', or \x60until' loop" 0
  else
    match words with
    | [] => leave s 1
    | word :: _ =>
      match s.isBash, Condition.integer? word with
      | false, _ =>
        let count ← number word
        if count = 0 then refuse ("Illegal number: " ++ word) 2 else leave s count
      | true, some n =>
        if n < 1 then
          note (word ++ ": loop count out of range") 1
          if !goesOn then throw (.left s.loops false)
        else leave s n.toNat
      | true, none =>
        complain (word ++ ": numeric argument required")
        throw (.exited 128)
where
  leave (s : State) (count : Nat) : Script Unit := do
    let count := min count s.loops
    if count ≠ 0 then throw (.left count goesOn)

/-- Takes the first arguments away. -/
def shift (words : List String) : Script Unit := do
  let s ← get
  let take (count : Nat) : Script Unit := do
    modify fun s => { s with arguments := s.arguments.drop count }
    setStatus 0
  match s.isBash, words with
  | _, [] => if s.arguments.isEmpty then lacking s else take 1
  | false, word :: _ =>
    let count ← number word
    if s.arguments.length < count then lacking s else take count
  | true, word :: _ =>
    match Condition.integer? word with
    | none => note (word ++ ": numeric argument required") 1
    | some n =>
      if n < 0 then note (word ++ ": shift count out of range") 1
      else if s.arguments.length < n.toNat then lacking s
      else take n.toNat
where
  lacking (s : State) : Script Unit :=
    if s.isBash then setStatus 1 else refuse "can't shift that many" 2

/-- Does what a tool does whose faults end the shell in one of the languages. -/
def specialBuiltin (runText : Source → Script Unit) (name : String) (words : List String) :
    Script Unit := do
  match name with
  | "exit" => exit words
  | "return" => leaveFunction words
  | "break" => leaveLoops false words
  | "continue" => leaveLoops true words
  | "shift" => shift words
  | "set" =>
    if words.isEmpty then tellBindings
    else
      let arguments? ← options false 0 true words
      modify fun s => { s with arguments := arguments?.getD s.arguments, status := 0 }
  | "export" => markNames runText "export" 'x' words
  | "readonly" => markNames runText "readonly" 'r' words
  | "local" => localizeAll runText words
  | "unset" => unset runText words
  | "trap" => trap words
  | "times" => tell ["0m0.000000s 0m0.000000s", "0m0.000000s 0m0.000000s"]
  | _ => setStatus 0

/-- Whether a command is one that runs others, which then do not speak in its name. -/
def isSilent (s : State) (name : String) : Bool :=
  ["kill", ".", "source", "eval"].contains name || (s.isBash && name == "getopts")

/-- Runs a part of the shell in its own name. -/
def runPart (runText : Source → Script Unit) (name : String) (words : List String) :
    Script Unit := do
  let act := match name with
    | "eval" => evaluateText runText words
    | "." => source runText name words
    | name =>
      if Reading.specialBuiltins.contains name then specialBuiltin runText name words
      else builtin runText name words
  if isSilent (← get) name then act else speaking name act

end BoardDebug.Build.Shell.Script
