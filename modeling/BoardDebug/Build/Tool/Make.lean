import BoardDebug.Build.Tool.Usage
import BoardDebug.Build.Tool.Date
import BoardDebug.Build.Tool.Mode

namespace BoardDebug.Build.Tool

/-- Makes directories. -/
def mkdir (arguments : List String) : Work Unit := do
  let manual : Manual := ⟨"mkdir", "m:pvZ",
    [("mode", .text, 'm'), ("parents", .nothing, 'p'), ("verbose", .nothing, 'v')], false, 1⟩
  let usage ← manual.usage arguments
  if usage.operands.isEmpty then misuse "mkdir" "missing operand" 1
  let change? ← (usage.text? 'm').mapM fun text => do
    match Mode.of? text with
    | some change => pure change
    | none =>
      Work.complain ("mkdir: invalid mode " ++ quoted text)
      Work.quit 1
  usage.operands.forM fun path => do
    if usage.has 'p' then withParents usage change? path
    else make usage change? path ((path.dropEndWhile '/').toString)
where
  tell (usage : Usage) (path : String) : Work Unit := do
    if usage.has 'v' then Work.say ("mkdir: created directory " ++ inQuotes path ++ "\n")
  refuse (path why : String) : Work Unit :=
    Work.complain ("mkdir: cannot create directory " ++ inQuotes path ++ ": " ++ why)
  create (change? : Option (Nat → Bool → Nat → Nat)) (place : Place) : Work Unit :=
    Work.changeFiles fun files =>
      match change? with
      | some change => files.insert place .directory (change files.mask true 0o777)
      | none => files.create place .directory
  make (usage : Usage) (change? : Option (Nat → Bool → Nat → Nat)) (path trimmed : String) :
      Work Unit := do
    let files ← Work.files
    match files.lookup false (if trimmed = "" then path else trimmed) with
    | .error fault => refuse path (reason fault)
    | .ok place =>
      if (files.number? place).isSome then refuse path "File exists"
      else
        create change? place
        tell usage path
  /-- Makes a directory and those on the way to it. -/
  withParents (usage : Usage) (change? : Option (Nat → Bool → Nat → Nat)) (path : String) :
      Work Unit := do
    let names := (path.dropEndWhile '/').toString.splitOn "/"
    let ways := (List.range names.length).map fun n => "/".intercalate (names.take (n + 1))
    let _ ← (ways.filter (· ≠ "")).foldlM
      (fun goesOn way => do
        if !goesOn then return false
        else
          let files ← Work.files
          let isLast := way = "/".intercalate names
          match files.find way, files.lookup true way with
          | .ok (_, ⟨.directory, _, _⟩), _ => return true
          | .ok _, _ =>
            refuse (if isLast then path else way) (if isLast then "File exists" else
              "Not a directory")
            return false
          | .error .missing, .ok place =>
            create (if isLast then change? else none) place
            tell usage (if isLast then path else way)
            return true
          | .error fault, _ =>
            refuse (if isLast then path else way) (reason fault)
            return false)
      true

/-- Gives files a new time, and makes those that are missing. -/
def touch (arguments : List String) : Work Unit := do
  let manual : Manual := ⟨"touch", "acd:fhmr:t:",
    [("time", .text, '1'), ("no-create", .nothing, 'c'), ("date", .text, 'd'),
      ("no-dereference", .nothing, 'h'), ("reference", .text, 'r')], false, 1⟩
  let usage ← manual.usage arguments
  let files ← Work.files
  let time? ← match usage.text? 'r', usage.text? 'd', usage.text? 't' with
    | some model, _, _ =>
      match files.find model with
      | .ok (_, node) => pure (some node.time)
      | .error fault =>
        Work.complain ("touch: failed to get attributes of " ++ inQuotes model ++ ": " ++
          reason fault)
        Work.quit 1
    | none, some text, _ => do pure (some (← timeOf (Date.read? files.time text) text))
    | none, none, some text => do pure (some (← timeOf (Date.stamp? files.time text) text))
    | none, none, none => pure none
  if usage.operands.isEmpty then misuse "touch" "missing file operand" 1
  usage.operands.forM fun path => do
    let refuse (why : String) :=
      Work.complain ("touch: cannot touch " ++ inQuotes path ++ ": " ++ why)
    let files ← Work.files
    let set (number : Nat) : Work Unit := Work.changeFiles fun files =>
      let changed := files.change number fun node => { node with time := time?.getD files.time }
      { changed with time := files.time + 1 }
    match files.lookup (!usage.has 'h') path with
    | .error fault =>
      if fault = .missing ∧ usage.has 'c' then return ()
      else if fault = .notDirectory ∧ path.endsWith "/" then
        Work.complain ("touch: setting times of " ++ inQuotes path ++ ": Not a directory")
      else refuse (reason fault)
    | .ok place =>
      match files.number? place with
      | some number => if path ≠ "-" then set number
      | none =>
        if !usage.has 'c' ∧ path ≠ "-" then
          Work.changeFiles (·.create place (.file []))
          match time?, (← Work.files).number? place with
          | some _, some number => set number
          | _, _ => return ()
where
  timeOf (found : Option Int) (text : String) : Work Int := do
    match found with
    | some time => return time
    | none =>
      Work.complain ("touch: invalid date format " ++ quoted text)
      Work.quit 1

/-- Makes a file or a directory with a new name. -/
def mktemp (arguments : List String) : Work Unit := do
  let manual : Manual := ⟨"mktemp", "dp:qtuV",
    [("directory", .nothing, 'd'), ("quiet", .nothing, 'q'), ("dry-run", .nothing, 'u'),
      ("suffix", .text, 's'), ("tmpdir", .perhaps, 'p')], false, 1⟩
  let usage ← manual.usage arguments
  match usage.operands with
  | _ :: _ :: _ => misuse "mktemp" "too many templates" 1
  | operands =>
    let model := operands.headD "tmp.XXXXXXXXXX"
    let ending := (usage.text? 's').getD ""
    let marks := (model.toList.reverse.dropWhile (· ≠ 'X')).takeWhile (· = 'X')
    if marks.length < 3 then
      Work.complain ("mktemp: too few X's in template " ++ quoted model)
      Work.quit 1
    let files ← Work.files
    let fresh := String.ofList (Text.zeroFill marks.length
      (Nat.toDigits 10 (files.time.toNat % Nat.pow 10 marks.length)))
    let behind := String.ofList ((model.toList.reverse.takeWhile (· ≠ 'X')).reverse)
    let start := String.ofList (model.toList.take
      (model.length - marks.length - behind.length))
    let name := start ++ fresh ++ behind ++ ending
    let path := if operands.isEmpty ∨ usage.hasAny "pt" then
        let directory := (usage.text? 'p').getD ""
        (if directory = "" then "/tmp" else directory) ++ "/" ++ name
      else name
    let body := if usage.has 'd' then Body.directory else .file []
    let kind := if usage.has 'd' then "directory" else "file"
    match files.lookup false path with
    | .error fault =>
      let shownPath := String.ofList (path.toList.take (path.length - name.length)) ++ model
      Work.complain ("mktemp: failed to create " ++ kind ++ " via template " ++
        quoted shownPath ++ ": " ++ reason fault)
    | .ok place =>
      if !usage.has 'u' then
        Work.changeFiles (·.insert place body (if usage.has 'd' then 0o700 else 0o600))
      Work.say (path ++ "\n")

/-- The new length of a file, from the one it has and a text that says how to change that. -/
def resized? (text : List Char) (old : Nat) : Option Nat :=
  let (sign, rest) := match text.dropWhile (· = ' ') with
    | c :: rest => if ['+', '-', '<', '>', '/', '%'].contains c then (c, rest) else (' ', c :: rest)
    | [] => (' ', [])
  (amount? rest).bind fun n =>
    match sign with
    | '+' => some (old + n)
    | '-' => some (old - n)
    | '<' => some (min old n)
    | '>' => some (max old n)
    | '/' => if n = 0 then none else some (old / n * n)
    | '%' => if n = 0 then none else some ((old + n - 1) / n * n)
    | _ => some n

/-- Makes files as long as is said, by leaving out their ends or by zeros behind them. -/
def truncate (arguments : List String) : Work Unit := do
  let manual : Manual := ⟨"truncate", "cor:s:",
    [("no-create", .nothing, 'c'), ("io-blocks", .nothing, 'o'), ("reference", .text, 'r'),
      ("size", .text, 's')], false, 1⟩
  let usage ← manual.usage arguments
  let files ← Work.files
  let size := usage.text? 's'
  match size with
  | some text =>
    if (resized? text.toList 0).isNone then
      Work.complain ("truncate: Invalid number: " ++ quoted text)
      Work.quit 1
  | none =>
    if !usage.has 'r' then
      misuse "truncate"
        "you must specify either '--size' or '--reference'" 1
  let model ← (usage.text? 'r').mapM fun path => do
    match files.contents path with
    | .ok bytes => pure bytes.length
    | .error fault =>
      Work.complain ("truncate: cannot stat " ++ inQuotes path ++ ": " ++ reason fault)
      Work.quit 1
  if usage.operands.isEmpty then misuse "truncate" "missing file operand" 1
  usage.operands.forM fun path => do
    let files ← Work.files
    let old := (files.contents path).toOption
    if old.isNone ∧ usage.has 'c' then return ()
    let length := model.getD (old.getD []).length
    let new := match size with
      | some text => (resized? text.toList length).getD 0
      | none => length
    let bytes := (old.getD []).take new ++ List.replicate (new - (old.getD []).length) 0
    match ← Work.store path bytes with
    | .ok () => return ()
    | .error fault =>
      Work.complain
        ("truncate: cannot open " ++ inQuotes path ++ " for writing: " ++ reason fault)

end BoardDebug.Build.Tool
