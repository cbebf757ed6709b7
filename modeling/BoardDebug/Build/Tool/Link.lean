import BoardDebug.Build.Tool.Copy

namespace BoardDebug.Build.Tool

/-- The path that leads from one place to another. -/
def relativePath (start goal : Place) : String :=
  let shared := (start.zip goal).takeWhile fun (a, b) => a = b
  let up := List.replicate (start.length - shared.length) ".."
  let way := up ++ goal.drop shared.length
  if way.isEmpty then "." else "/".intercalate way

def absolutePath (place : Place) : String :=
  "/" ++ "/".intercalate place

/-- How links are made. -/
structure Linking where
  isSymbolic : Bool
  isForced : Bool
  /-- The path in a link starts from where the link lies. -/
  isRelative : Bool
  tells : Bool
  asks : Bool
  backup : Option String

/-- Makes a link. -/
def Linking.make (how : Linking) (target source : String) : Work Unit := do
  let files ← Work.files
  let kind := if how.isSymbolic then "symbolic" else "hard"
  let refuse (why : String) : Work Unit :=
    Work.complain ("ln: failed to create " ++ kind ++ " link " ++ inQuotes target ++ ": " ++ why)
  match files.findLink source, files.lookup false target with
  | .error fault, _ =>
    if how.isSymbolic then finish files refuse
    else Work.complain ("ln: failed to access " ++ inQuotes source ++ ": " ++ reason fault)
  | .ok (_, node), _ =>
    if node.body = .directory ∧ !how.isSymbolic then
      Work.complain ("ln: " ++ shown source ++ ": hard link not allowed for directory")
    else finish files refuse
where
  finish (files : Files) (refuse : String → Work Unit) : Work Unit := do
    match files.lookup false target with
    | .error fault => refuse (reason fault)
    | .ok goal =>
      let number? := (files.findLink source).toOption.bind fun (place, _) => files.number? place
      let isThere := (files.number? goal).isSome
      let replaces ← if isThere ∧ how.asks then ask ("ln: replace " ++ inQuotes target)
        else pure (how.isForced || how.backup.isSome)
      if isThere ∧ !replaces then
        if how.asks then Work.setStatus 1 else refuse "File exists"
      else if isThere ∧ !how.isSymbolic ∧ files.number? goal = number? then
        if (files.findLink source).toOption.any fun (place, _) => place = goal then
          Work.complain
            ("ln: " ++ inQuotes source ++ " and " ++ inQuotes target ++ " are the same file")
      else
        match how.backup, isThere with
        | some ending, true =>
          let name := goal.getLastD "" ++ ending
          Work.changeFiles (·.move goal (goal.dropLast ++ [name]))
        | _, _ => Work.changeFiles (·.remove goal)
        let path := match how.isRelative, files.lookup false source with
          | true, .ok place => relativePath goal.dropLast place
          | _, _ => source
        Work.changeFiles fun files =>
          match how.isSymbolic, number? with
          | false, some number => { files with entries := (goal, number) :: files.entries }
          | _, _ => files.create goal (.link path)
        if how.tells then
          let sign := if how.isSymbolic then " -> " else " => "
          Work.say (inQuotes target ++ sign ++ inQuotes path ++ "\n")

/-- Makes links to files. -/
def ln (arguments : List String) : Work Unit := do
  let manual : Manual := ⟨"ln", "bdfFiLnPrsS:t:Tv",
    [("backup", .perhaps, 'b'), ("directory", .nothing, 'd'), ("force", .nothing, 'f'),
      ("interactive", .nothing, 'i'), ("logical", .nothing, 'L'),
      ("no-dereference", .nothing, 'n'), ("physical", .nothing, 'P'),
      ("relative", .nothing, 'r'), ("symbolic", .nothing, 's'), ("suffix", .text, 'S'),
      ("target-directory", .text, 't'), ("no-target-directory", .nothing, 'T'),
      ("verbose", .nothing, 'v')], false, 1⟩
  let usage ← manual.usage arguments
  let how : Linking :=
    { isSymbolic := usage.has 's'
      isForced := usage.lastOf? "fi" == some 'f'
      isRelative := usage.has 'r'
      tells := usage.has 'v'
      asks := usage.lastOf? "fi" == some 'i'
      backup := backupOf usage }
  let files ← Work.files
  let isInto (path : String) : Bool :=
    let isLink := match files.findLink path with
      | .ok (_, ⟨.link _, _, _⟩) => true
      | _ => false
    files.isDirectory path && !(usage.has 'n' && isLink)
  let into (directory : String) (sources : List String) : Work Unit :=
    sources.forM fun source => how.make (joinPath directory (lastName source)) source
  match usage.text? 't', usage.operands.reverse with
  | _, [] => misuse "ln" "missing file operand" 1
  | some directory, sources => into directory sources.reverse
  | none, [source] => into "." [source]
  | none, target :: sources =>
    match sources with
    | [source] =>
      if usage.has 'T' ∨ !isInto target then how.make target source else into target [source]
    | _ =>
      if isInto target then into target sources.reverse
      else
        let why := match files.find target with
          | .error fault => reason fault
          | .ok _ => reason .notDirectory
        Work.complain ("ln: target " ++ inQuotes target ++ ": " ++ why)

/-- Gives a file one more name. -/
def link (arguments : List String) : Work Unit := do
  let usage ← (⟨"link", "", [], false, 1⟩ : Manual).usage arguments
  match usage.operands with
  | [] => misuse "link" "missing operand" 1
  | [only] => misuse "link" ("missing operand after " ++ quoted only) 1
  | _ :: _ :: extra :: _ => misuse "link" ("extra operand " ++ quoted extra) 1
  | [source, target] =>
    let files ← Work.files
    let refuse (why : String) : Work Unit :=
      Work.complain ("link: cannot create link " ++ inQuotes target ++ " to " ++ inQuotes source ++
        ": " ++ why)
    match files.findLink source, files.lookup false target with
    | .error fault, _ => refuse (reason fault)
    | .ok (_, ⟨.directory, _, _⟩), _ => refuse "Operation not permitted"
    | .ok _, .error fault => refuse (reason fault)
    | .ok (place, _), .ok goal =>
      match files.number? place, files.number? goal with
      | _, some _ => refuse "File exists"
      | some number, none =>
        Work.changeFiles fun files => { files with entries := (goal, number) :: files.entries }
      | none, none => refuse (reason .missing)

/-- Takes a name of a file away. -/
def unlink (arguments : List String) : Work Unit := do
  let usage ← (⟨"unlink", "", [], false, 1⟩ : Manual).usage arguments
  match usage.operands with
  | [] => misuse "unlink" "missing operand" 1
  | _ :: extra :: _ => misuse "unlink" ("extra operand " ++ quoted extra) 1
  | [path] =>
    let files ← Work.files
    let refuse (why : String) : Work Unit :=
      Work.complain ("unlink: cannot unlink " ++ inQuotes path ++ ": " ++ why)
    match files.findLink path with
    | .error fault => refuse (reason fault)
    | .ok (_, ⟨.directory, _, _⟩) => refuse (reason .isDirectory)
    | .ok (place, _) => Work.changeFiles (·.remove place)

/-- The place that the names in a path lead to, whatever is there. -/
def spelledPlace (files : Files) (path : String) : Place :=
  (path.splitOn "/").foldl
    (fun place name =>
      if name = "" ∨ name = "." then place
      else if name = ".." then place.dropLast
      else place ++ [name])
    (if path.startsWith "/" then [] else files.here)

/-- The place that a path leads to. With `mayMiss`, anything on the way may be missing. -/
def canonical (files : Files) (mayMiss : Bool) (path : String) : Except FileFault Place :=
  match files.lookup true path with
  | .ok place => .ok place
  | .error fault =>
    if mayMiss ∧ path ≠ "" then .ok (spelledPlace files path) else .error fault

/-- Writes the paths in links, or the full paths that paths lead to. -/
def readlink (arguments : List String) : Work Unit := do
  let manual : Manual := ⟨"readlink", "efmnqsvz",
    [("canonicalize", .nothing, 'f'), ("canonicalize-existing", .nothing, 'e'),
      ("canonicalize-missing", .nothing, 'm'), ("no-newline", .nothing, 'n'),
      ("quiet", .nothing, 'q'), ("silent", .nothing, 's'), ("verbose", .nothing, 'v'),
      ("zero", .nothing, 'z')], false, 1⟩
  let usage ← manual.usage arguments
  if usage.operands.isEmpty then misuse "readlink" "missing operand" 1
  let isOnly := usage.operands.length = 1
  let ending := if usage.has 'n' ∧ isOnly then "" else if usage.has 'z' then "\x00" else "\n"
  usage.operands.forM fun path => do
    let files ← Work.files
    let found : Except String String := match usage.lastOf? "efm" with
      | none =>
        match files.findLink path with
        | .ok (_, ⟨.link target, _, _⟩) => .ok target
        | .ok _ => .error "Invalid argument"
        | .error fault => .error (reason fault)
      | some letter =>
        match canonical files (letter == 'm') path with
        | .error fault => .error (reason fault)
        | .ok place =>
          if letter = 'e' ∧ (files.number? place).isNone then .error (reason .missing)
          else .ok (absolutePath place)
    match found with
    | .ok text => Work.say (text ++ ending)
    | .error why =>
      if usage.has 'v' then Work.complain ("readlink: " ++ shown path ++ ": " ++ why)
      Work.setStatus 1

/-- Writes the full paths that paths lead to. -/
def realpath (arguments : List String) : Work Unit := do
  let manual : Manual := ⟨"realpath", "eLmPqsz",
    [("canonicalize-existing", .nothing, 'e'), ("canonicalize-missing", .nothing, 'm'),
      ("logical", .nothing, 'L'), ("physical", .nothing, 'P'), ("quiet", .nothing, 'q'),
      ("relative-to", .text, '1'), ("relative-base", .text, '2'), ("strip", .nothing, 's'),
      ("no-symlinks", .nothing, 's'), ("zero", .nothing, 'z')], false, 1⟩
  let usage ← manual.usage arguments
  if usage.operands.isEmpty then misuse "realpath" "missing operand" 1
  let tree ← Work.files
  let base? := (usage.text? '1').map fun path => (canonical tree true path).toOption.getD []
  usage.operands.forM fun path => do
    let files ← Work.files
    let reached : Except FileFault Place :=
      if usage.has 's' then .ok (spelledPlace files path)
      else canonical files (usage.has 'm') path
    let found : Except FileFault Place := match reached with
      | .ok place =>
        if usage.has 'e' ∧ (files.number? place).isNone then .error .missing else .ok place
      | .error fault => .error fault
    match found with
    | .ok place =>
      let text := match base? with
        | some base => relativePath base place
        | none => absolutePath place
      Work.say (text ++ (if usage.has 'z' then "\x00" else "\n"))
    | .error fault =>
      if !usage.has 'q' then Work.complain ("realpath: " ++ shown path ++ ": " ++ reason fault)
      Work.setStatus 1

/-- Writes the path of the working directory. -/
def pwd (arguments : List String) : Work Unit := do
  let manual : Manual := ⟨"pwd", "LP", [("logical", .nothing, 'L'), ("physical", .nothing, 'P')],
    false, 1⟩
  let usage ← manual.usage arguments
  if !usage.operands.isEmpty then
    Work.write true (Octets.bytes "pwd: ignoring non-option arguments\n")
  Work.say (absolutePath (← Work.files).here ++ "\n")

end BoardDebug.Build.Tool
