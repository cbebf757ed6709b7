import BoardDebug.Build.Tool.Remove

namespace BoardDebug.Build.Tool

/-- How files are copied or moved. -/
structure Transfer where
  tool : String
  isRecursive : Bool := false
  /-- Links are copied as links. -/
  keepsLinks : Bool := false
  /-- Copies get the times and rights of what they are copied from. -/
  keepsRights : Bool := false
  /-- Files that are there stay as they are. -/
  spares : Bool := false
  /-- So do those that are not older. -/
  updates : Bool := false
  asks : Bool := false
  tells : Bool := false
  /-- Files that are there are put aside. -/
  backup : Option String := none
  /-- They are taken away first. -/
  removes : Bool := false
  makesHardLinks : Bool := false
  makesLinks : Bool := false
  /-- What new files may have done with them, if not what may be done with the old ones. -/
  mode : Option (Nat → Bool → Nat → Nat) := none

/-- A path for something in a directory. -/
def joinPath (directory name : String) : String :=
  if directory.endsWith "/" then directory ++ name else directory ++ "/" ++ name

/-- The last name in a path, without slashes behind it. -/
def lastName (path : String) : String :=
  let names := (path.splitOn "/").filter (· ≠ "")
  names.getLastD (if path.startsWith "/" then "/" else "")

namespace Transfer

def refuse (how : Transfer) (text : String) : Work Unit :=
  Work.complain (how.tool ++ ": " ++ text)

/-- What is written about a step. -/
def tell (how : Transfer) (source target : String) (aside : Option String) : Work Unit := do
  if how.tells then
    let behind := match aside with
      | some path => " (backup: " ++ inQuotes path ++ ")"
      | none => ""
    let start := if how.tool = "mv" then "renamed " else ""
    Work.say (start ++ inQuotes source ++ " -> " ++ inQuotes target ++ behind ++ "\n")

/-- Whether a node that is there may be replaced. -/
def mayReplace (how : Transfer) (target : String) (old new : Node) : Work Bool := do
  if how.spares ∨ how.updates ∧ new.time ≤ old.time then return false
  else if how.asks then ask (how.tool ++ ": overwrite " ++ inQuotes target)
  else return true

/-- Puts a node that is there aside; the result is its new path. -/
def putAside (how : Transfer) (target : String) (place : Place) : Work (Option String) := do
  match how.backup with
  | none => return none
  | some ending =>
    let name := place.getLastD "" ++ ending
    Work.changeFiles (·.move place (place.dropLast ++ [name]))
    return some (target ++ ending)

/-- The rights and the time of a copy. -/
def finishNode (how : Transfer) (source : Node) (place : Place) : Work Unit :=
  Work.changeFiles fun files =>
    match files.number? place with
    | none => files
    | some number =>
      files.change number fun node =>
        if how.keepsRights then { node with mode := source.mode, time := source.time }
        else
          match how.mode with
          | some change => { node with mode := change 0 (node.body == .directory) 0 }
          | none => node

/-- Copies a file or a link to a place in which nothing is, or a file that may be replaced. -/
def place (how : Transfer) (sourcePath target : String) (source : Place) (node : Node) :
    Work Unit := do
  let files ← Work.files
  let follows := how.tool = "cp" && !how.removes && !how.makesHardLinks && !how.makesLinks &&
    how.backup.isNone && !(node.body matches .link _)
  let slashed : Bool := target.endsWith "/"
  match files.lookup follows target with
  | .error fault =>
    let fault := if slashed ∧ fault = .missing then FileFault.notDirectory else fault
    let kind := if how.makesHardLinks then "hard link " else if how.makesLinks then "symbolic link "
      else if node.body matches .link _ then "symbolic link " else "regular file "
    let behind := if how.makesHardLinks then " to " ++ inQuotes sourcePath else ""
    how.refuse ("cannot create " ++ kind ++ inQuotes target ++ behind ++ ": " ++ reason fault)
  | .ok goal =>
    let old := files.node? goal
    let aside ← if old.isSome then how.putAside target goal else pure none
    let files ← Work.files
    let isLinkThere := (files.findLink target).toOption.any fun (_, n) => n.body matches .link _
    if old.isNone ∧ isLinkThere ∧ follows then
      how.refuse ("not writing through dangling symlink " ++ inQuotes target)
    else
      if old.isSome ∧ how.removes then
        Work.changeFiles (·.remove goal)
        if how.tells then Work.say ("removed " ++ inQuotes target ++ "\n")
      let files ← Work.files
      match how.makesHardLinks, files.number? source, files.number? goal with
      | true, some number, none =>
        Work.changeFiles fun files => { files with entries := (goal, number) :: files.entries }
      | true, _, some _ =>
        how.refuse ("cannot create hard link " ++ inQuotes target ++ " to " ++
          inQuotes sourcePath ++ ": File exists")
      | _, _, there =>
        let isSame := how.makesLinks
        let body := if isSame then Body.link sourcePath else node.body
        match there, body with
        | some _, .link _ =>
          if isSame then
            how.refuse ("cannot create symbolic link " ++ inQuotes target ++ " to " ++
              inQuotes sourcePath ++ ": File exists")
          else Work.changeFiles fun files => files.create goal body
        | some number, .file bytes => Work.changeFiles (·.setBytes number bytes)
        | some number, body => Work.changeFiles (·.change number fun n => { n with body })
        | none, body =>
          let body := match body with
            | .device _ => Body.file (Files.bytesOf body)
            | body => body
          Work.changeFiles fun files =>
            match body with
            | .link _ => files.create goal body
            | _ => files.insert goal body (Mode.without (node.mode % 0o1000) files.mask)
        if !isSame then how.finishNode node goal
      let failed := how.makesHardLinks && (files.number? goal).isSome
      if !failed then how.tell sourcePath target aside

/-- Copies what a path leads to. Nothing is copied into `avoided`, a directory that is being
copied to. -/
def copy (how : Transfer) : Nat → (avoided : Option Place) → (target source : String) → Work Unit
  | 0, _, _, _ => return ()
  | fuel + 1, avoided, target, source => do
    let files ← Work.files
    let inside (origin goal : Place) : Work Unit := do
      (files.names origin).forM fun name =>
        copy how fuel (if origin.isPrefixOf goal then some goal else avoided)
          (joinPath target name) (joinPath source name)
      if origin.isPrefixOf goal then
        how.refuse ("cannot copy a directory, " ++ inQuotes source ++ ", into itself, " ++
          inQuotes target)
    match if how.keepsLinks then files.findLink source else files.find source with
    | .error fault =>
      how.refuse ("cannot stat " ++ inQuotes source ++ ": " ++ reason fault)
    | .ok (origin, ⟨.directory, mode, time⟩) =>
      if how.tool = "install" then
        how.refuse ("omitting directory " ++ inQuotes source)
      else if !how.isRecursive then
        how.refuse ("-r not specified; omitting directory " ++ inQuotes source)
      else if avoided = some origin then return ()
      else
        match files.lookup true target with
        | .error fault =>
          how.refuse ("cannot create directory " ++ inQuotes target ++ ": " ++ reason fault)
        | .ok goal =>
          match files.body? goal with
          | some .directory =>
            if goal = origin then
              how.refuse (inQuotes source ++ " and " ++ inQuotes target ++ " are the same file")
            else inside origin goal
          | some _ =>
            how.refuse ("cannot overwrite non-directory " ++ inQuotes target ++
              " with directory " ++ inQuotes source)
          | none =>
            Work.changeFiles (·.insert goal .directory (Mode.without (mode % 0o1000) files.mask))
            how.tell source target none
            inside origin goal
            how.finishNode ⟨.directory, mode, time⟩ goal
    | .ok (origin, node) =>
      match files.find target, files.findLink target with
      | .ok (_, ⟨.directory, _, _⟩), _ =>
        how.refuse ("cannot overwrite directory " ++ inQuotes target ++ " with non-directory")
      | .ok (goal, old), link =>
        let isSame := files.number? goal = files.number? origin ||
          (link.toOption.any fun (p, _) => p = origin)
        if isSame ∧ !how.makesHardLinks ∧ !how.removes then
          how.refuse (inQuotes source ++ " and " ++ inQuotes target ++ " are the same file")
        else if ← how.mayReplace target old node then
          how.place source target origin node
      | .error _, _ => how.place source target origin node

/-- Moves what a path leads to. -/
def move (how : Transfer) (target source : String) : Work Unit := do
  let files ← Work.files
  let cannot (why : String) : Work Unit :=
    how.refuse ("cannot move " ++ inQuotes source ++ " to " ++ inQuotes target ++ ": " ++ why)
  match files.findLink source with
  | .error fault => how.refuse ("cannot stat " ++ inQuotes source ++ ": " ++ reason fault)
  | .ok (origin, node) =>
    let isDirectory := node.body == .directory
    let trimmed := if isDirectory then (target.dropEndWhile '/').toString else target
    match files.lookup false (if trimmed = "" then target else trimmed) with
    | .error fault =>
      cannot (reason (if target.endsWith "/" ∧ fault = .missing then .notDirectory else fault))
    | .ok goal =>
      let isSame := match files.find source, files.find target with
        | .ok (a, _), .ok (b, _) =>
          files.number? a = files.number? b && (node.body matches .link _ || goal = origin)
        | _, _ => goal = origin
      if isSame then
        how.refuse (inQuotes source ++ " and " ++ inQuotes target ++ " are the same file")
      else if isDirectory ∧ origin.isPrefixOf goal then
        how.refuse ("cannot move " ++ inQuotes source ++ " to a subdirectory of itself, " ++
          inQuotes target)
      else if endsInDots source then cannot "Device or resource busy"
      else
        match files.node? goal with
        | none =>
          Work.changeFiles (·.move origin goal)
          how.tell source target none
        | some old =>
          if !isDirectory ∧ old.body = .directory then
            how.refuse ("cannot overwrite directory " ++ inQuotes target ++
              " with non-directory")
          else if isDirectory ∧ old.body ≠ .directory then
            how.refuse ("cannot overwrite non-directory " ++ inQuotes target ++
              " with directory " ++ inQuotes source)
          else if !(← how.mayReplace target old node) then return ()
          else
            let aside ← how.putAside target goal
            if aside.isNone ∧ isDirectory ∧ !(files.names goal).isEmpty then
              how.refuse ("cannot overwrite " ++ inQuotes target ++ ": Directory not empty")
            else
              Work.changeFiles (·.move origin goal)
              how.tell source target aside

/-- Does something with a source and a target for each source. Several sources, and one in front of
a directory, go into the directory that is named last. -/
def each (how : Transfer) (act : (target source : String) → Work Unit) (usage : Usage) :
    Work Unit := do
  let files ← Work.files
  let into (directory : String) (sources : List String) : Work Unit :=
    sources.forM fun source =>
      let name := lastName source
      act (if name = ".." then directory else joinPath directory name) source
  let name := how.tool
  match usage.text? 't', usage.operands.reverse with
  | _, [] => misuse name "missing file operand" 1
  | some directory, _ =>
    match files.find directory with
    | .ok (_, ⟨.directory, _, _⟩) => into directory usage.operands
    | found =>
      how.refuse ("target directory " ++ inQuotes directory ++ ": " ++ why found)
  | none, [source] =>
    misuse name ("missing destination file operand after " ++ inQuotes source) 1
  | none, target :: sources =>
    if usage.has 'T' then
      match sources with
      | [source] => act target source
      | _ => misuse name ("extra operand " ++ inQuotes target) 1
    else if files.isDirectory target then into target sources.reverse
    else
      match sources with
      | [source] => act target source
      | _ => how.refuse ("target " ++ inQuotes target ++ ": " ++ why (files.find target))
where
  why : Except FileFault (Place × Node) → String
    | .error fault => reason fault
    | .ok _ => reason .notDirectory

end Transfer

/-- The ending for files that are put aside, if they are. -/
def backupOf (usage : Usage) : Option String :=
  if usage.hasAny "bS" then some ((usage.text? 'S').getD "~") else none

def cpManual : Manual where
  tool := "cp"
  letters := "abdfHilLnPprRsS:t:TuvxZ"
  words := [("archive", .nothing, 'a'), ("attributes-only", .nothing, '1'),
    ("backup", .perhaps, 'b'), ("copy-contents", .nothing, '2'), ("debug", .nothing, 'v'),
    ("dereference", .nothing, 'L'), ("force", .nothing, 'f'), ("interactive", .nothing, 'i'),
    ("link", .nothing, 'l'), ("no-clobber", .nothing, 'n'), ("no-dereference", .nothing, 'P'),
    ("no-preserve", .text, '3'), ("no-target-directory", .nothing, 'T'),
    ("one-file-system", .nothing, 'x'), ("parents", .nothing, '4'), ("path", .nothing, '4'),
    ("preserve", .perhaps, 'p'), ("recursive", .nothing, 'R'),
    ("remove-destination", .nothing, '5'), ("sparse", .text, '6'), ("reflink", .perhaps, '7'),
    ("strip-trailing-slashes", .nothing, '8'), ("suffix", .text, 'S'),
    ("symbolic-link", .nothing, 's'), ("target-directory", .text, 't'), ("update", .perhaps, 'u'),
    ("verbose", .nothing, 'v')]

/-- More levels than directories are nested. -/
def maxLevels : Nat := 1000

/-- Makes the directories for a copy that keeps the whole path of its source. -/
def copyParents (how : Transfer) (directory source : String) : Work Unit := do
  let names := ((source.splitOn "/").filter (· ≠ "")).dropLast
  (List.range names.length).forM fun n => do
    let way := "/".intercalate (names.take (n + 1))
    let path := joinPath directory way
    let files ← Work.files
    match files.lookup true path with
    | .ok place =>
      if (files.number? place).isNone then
        Work.changeFiles (·.create place .directory)
        if how.tells then Work.say (way ++ " -> " ++ path ++ "\n")
    | .error _ => return ()

/-- Copies files. -/
def cp (arguments : List String) : Work Unit := do
  let usage ← cpManual.usage arguments
  let isRecursive := usage.hasAny "arR"
  let how : Transfer :=
    { tool := "cp"
      isRecursive
      keepsLinks := match usage.lastOf? "LPadH" with
        | some c => c != 'L' && c != 'H'
        | none => isRecursive
      keepsRights := usage.hasAny "ap"
      spares := usage.lastOf? "nif" == some 'n' || usage.text? 'u' == some "none"
      updates := usage.has 'u' && !(usage.text? 'u' == some "all")
      asks := usage.lastOf? "nif" == some 'i'
      tells := usage.has 'v'
      backup := backupOf usage
      removes := usage.has '5'
      makesHardLinks := usage.has 'l'
      makesLinks := usage.has 's' }
  if usage.has '4' then
    match usage.text? 't' <|> usage.operands.getLast? with
    | none => misuse "cp" "missing file operand" 1
    | some directory =>
      if !(← Work.files).isDirectory directory then
        misuse "cp" "with --parents, the destination must be a directory" 1
      let sources := if usage.has 't' then usage.operands else usage.operands.dropLast
      sources.forM fun source => do
        copyParents how directory source
        how.copy maxLevels none (joinPath directory source) source
  else how.each (how.copy maxLevels none) usage

/-- Moves files. -/
def mv (arguments : List String) : Work Unit := do
  let manual : Manual := ⟨"mv", "bfinS:t:TuvZ",
    [("backup", .perhaps, 'b'), ("force", .nothing, 'f'), ("interactive", .nothing, 'i'),
      ("no-clobber", .nothing, 'n'), ("no-target-directory", .nothing, 'T'),
      ("strip-trailing-slashes", .nothing, '8'), ("suffix", .text, 'S'),
      ("target-directory", .text, 't'), ("update", .perhaps, 'u'), ("verbose", .nothing, 'v')],
    false, 1⟩
  let usage ← manual.usage arguments
  let how : Transfer :=
    { tool := "mv"
      spares := usage.lastOf? "nif" == some 'n' || usage.text? 'u' == some "none"
      updates := usage.has 'u' && !(usage.text? 'u' == some "all")
      asks := usage.lastOf? "nif" == some 'i'
      tells := usage.has 'v'
      backup := backupOf usage }
  how.each how.move usage

def installManual : Manual where
  tool := "install"
  letters := "bcCsDdg:m:o:pt:TvS:Z"
  words := [("backup", .perhaps, 'b'), ("compare", .nothing, 'C'), ("directory", .nothing, 'd'),
    ("group", .text, 'g'), ("mode", .text, 'm'), ("no-target-directory", .nothing, 'T'),
    ("owner", .text, 'o'), ("preserve-timestamps", .nothing, 'p'), ("strip", .nothing, 's'),
    ("suffix", .text, 'S'), ("target-directory", .text, 't'), ("verbose", .nothing, 'v')]

/-- Makes a directory and those on the way to it, and tells about them if that is asked for. -/
def installDirectory (tells : Bool) (mode : Nat → Bool → Nat → Nat) (path : String) :
    Work Unit := do
  let names := (path.dropEndWhile '/').toString.splitOn "/"
  let ways := (List.range names.length).map fun n => "/".intercalate (names.take (n + 1))
  (ways.filter (· ≠ "")).forM fun way => do
    let files ← Work.files
    match files.lookup true way with
    | .error fault =>
      Work.complain ("install: cannot create directory " ++ inQuotes way ++ ": " ++ reason fault)
    | .ok place =>
      match files.body? place with
      | some .directory => return ()
      | some _ =>
        Work.complain ("install: cannot create directory " ++ inQuotes way ++ ": File exists")
      | none =>
        let isLast := way = "/".intercalate names
        Work.changeFiles fun files =>
          if isLast then files.insert place .directory (mode 0 true 0)
          else files.create place .directory
        if tells then Work.say ("install: creating directory " ++ inQuotes way ++ "\n")

/-- Copies files to where they are used, with rights of their own. -/
def install (arguments : List String) : Work Unit := do
  let usage ← installManual.usage arguments
  let modeText := (usage.text? 'm').getD "755"
  match Mode.of? modeText with
  | none =>
    Work.complain ("install: invalid mode " ++ quoted modeText)
  | some mode =>
    if usage.has 'd' then
      if usage.operands.isEmpty then misuse "install" "missing file operand" 1
      usage.operands.forM (installDirectory (usage.has 'v') mode)
    else
      let how : Transfer :=
        { tool := "install"
          tells := usage.has 'v'
          backup := backupOf usage
          removes := true
          mode := some mode }
      if usage.has 'D' then
        let directory := match usage.text? 't' with
          | some directory => some directory
          | none => (usage.operands.getLast?).bind fun target =>
            let way := (target.splitOn "/").dropLast
            if way.isEmpty then none else some ("/".intercalate way)
        match directory with
        | some directory => installDirectory how.tells (fun _ _ _ => 0o755) directory
        | none => return ()
      how.each (how.copy maxLevels none) usage

end BoardDebug.Build.Tool
