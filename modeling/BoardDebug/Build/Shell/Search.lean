import BoardDebug.Build.Shell.Names

namespace BoardDebug.Build.Shell.Script

/-- A file that can be run, with the path at which it was found. -/
structure Executable where
  path : String
  node : Node

/-- The program at a path. -/
def executableAt (files : Files) (path : String) : Except FileFault Executable :=
  match files.find path with
  | .error fault => .error fault
  | .ok (_, node) =>
    let isProgram : Bool := match node.body with
      | .file _ => node.mode &&& 0o111 != 0
      | .tool _ => true
      | _ => false
    if isProgram then .ok ⟨path, node⟩ else .error .denied

/-- The first program with a name in some directories. What is no program there counts as denied,
unless the language is one in which it does not count. -/
def searchIn (dialect : Dialect) (files : Files) (name : String) (fault : FileFault) :
    List String → Except FileFault Executable
  | [] => .error fault
  | directory :: rest =>
    let path := if directory = "" then name else directory ++ "/" ++ name
    match executableAt files path with
    | .ok found => .ok found
    | .error next =>
      let isIgnored := next = .missing ∨ next = .notDirectory ∨
        (dialect = .bash ∧ (next ≠ .denied ∨ files.isDirectory path))
      searchIn dialect files name (if isIgnored then fault else next) rest

/-- The directories in which the usual programs lie. -/
def usualPath : String :=
  "/usr/local/sbin:/usr/local/bin:/usr/sbin:/usr/bin:/sbin:/bin"

/-- The program that a name means. -/
def executable (s : State) (name : String) : Except FileFault Executable :=
  let files := s.machine.files
  if name.contains '/' then executableAt files name
  else searchIn s.dialect files name .missing (((s.text? "PATH").getD "").splitOn ":")

/-- The parts of a shell that are called like programs. -/
def builtins : Dialect → List String
  | .sh => usual
  | .bash =>
    usual ++ ["builtin", "compgen", "complete", "declare", "dirs", "disown", "enable", "help",
      "let", "logout", "mapfile", "popd", "pushd", "readarray", "shopt", "source", "suspend",
      "typeset"]
where
  usual : List String :=
    ["alias", "bg", "cd", "command", "echo", "false", "fg", "getopts", "hash", "jobs", "kill",
      "printf", "pwd", "read", "test", "[", "true", "type", "ulimit", "umask", "unalias", "wait"]

/-- What a command is. -/
inductive Meaning where
  | keyword
  | shortName (text : String)
  | special
  | function
  | builtin
  | program (path : String)

/-- What the first word of a command says. Not even a file that cannot be run is passed over if its
path is given and the language takes it. -/
def meaning? (s : State) (name : String) : Option Meaning :=
  let isSpecial := Reading.specialBuiltins.contains name
  let alias? := if s.isBash && !s.features.contains "expand_aliases" then none
    else look name s.aliases
  let path? : Option String :=
    if name.contains '/' ∧ !s.isBash then
      if (s.machine.files.find name).isOk then some name else none
    else (executable s name).toOption.map (·.path)
  if (reservedWords s.dialect).contains name then some .keyword
  else
    match alias? with
    | some text => some (.shortName text)
    | none =>
      if isSpecial ∧ !s.isBash then some .special
      else if (look name s.functions).isSome then some .function
      else if isSpecial ∨ (builtins s.dialect).contains name then some .builtin
      else path?.map .program

/-- What a command is, in words. -/
def described (s : State) (name : String) : Meaning → String
  | .keyword => " is a shell keyword"
  | .shortName text =>
    if s.isBash then " is aliased to \x60" ++ text ++ "'" else " is an alias for " ++ text
  | .special => " is a special shell builtin"
  | .function => if s.isBash then " is a function" else " is a shell function"
  | .builtin => " is a shell builtin"
  | .program path =>
    if !s.known.contains name then " is " ++ path
    else if s.isBash then " is hashed (" ++ path ++ ")"
    else " is a tracked alias for " ++ path

/-- How a command would be called in full. -/
def calling (s : State) (name : String) : Meaning → String
  | .shortName text => "alias " ++ name ++ "=" ++ quotedFor s.dialect text
  | .program path => path
  | _ => name

/-- What a command is, in one word. -/
def kindOf : Meaning → String
  | .keyword => "keyword"
  | .shortName _ => "alias"
  | .function => "function"
  | .program _ => "file"
  | _ => "builtin"

/-- Notes that a program has been found. -/
def learn (name : String) : Script Unit :=
  modify fun s => if s.known.contains name then s else { s with known := name :: s.known }

/-- Notes that a program has been found in passing, as one of the languages wants it. -/
def learnOf (name : String) (meaning : Meaning) : Script Unit := do
  if !(← get).isBash ∧ !name.contains '/' ∧ meaning matches .program _ then learn name

/-- The programs that have been found, in the order in which they are told. -/
def learned (s : State) : List String :=
  let slot (name : String) : Nat :=
    let codes := name.toList.map Char.toNat
    (16 * codes.headD 0 + codes.foldl (· + ·) 0) % 32768 % 31
  if s.isBash then s.known.reverse else s.known.reverse.mergeSort fun a b => slot a ≤ slot b

/-- Says what commands are. -/
def describe (words : List String) : Script Unit := do
  let s ← get
  let (options, names) := if s.isBash then letterOptions words else ([], words)
  match options.find? fun (_, c) => !"afptP".toList.contains c with
  | some (_, c) => refuseOption true c "type: usage: type [-afptP] name [name ...]"
  | none =>
    let has (letter : Char) : Bool := options.any fun (_, c) => c == letter
    setStatus 0
    names.forM fun name => do
      let s ← get
      let found := if has 'P' then (executable s name).toOption.map fun e => Meaning.program e.path
        else meaning? s name
      let others : List Meaning :=
        if !has 'a' ∨ found.isNone ∨ name.contains '/' then []
        else
          let paths := ((s.text? "PATH").getD "").splitOn ":"
          let all := paths.filterMap fun directory =>
            (executableAt s.machine.files (directory ++ "/" ++ name)).toOption.map (·.path)
          let isFile := found matches some (.program _)
          (if isFile then all.drop 1 else all).map .program
      let line : Option String := found.bind fun meaning =>
        if has 't' then some (kindOf meaning)
        else if has 'p' ∨ has 'P' then
          match meaning with
          | .program path => some path
          | _ => none
        else some (name ++ described s name meaning)
      if let some meaning := found then learnOf name meaning
      match line with
      | some line =>
        let _ ← write 1 (Octets.bytes (line ++ "\n"))
        others.forM fun
          | .program path => do
            let text := if has 't' then "file" else if has 'p' ∨ has 'P' then path
              else name ++ " is " ++ path
            let _ ← write 1 (Octets.bytes (text ++ "\n"))
          | _ => return ()
      | none =>
        if found.isNone then
          if !s.isBash then
            let _ ← write 1 (Octets.bytes (name ++ ": not found\n"))
          else if !(has 't' ∨ has 'p' ∨ has 'P') then complain (name ++ ": not found")
          setStatus (if s.isBash then 1 else 127)

/-- Says how the first of some commands would be called, or what it is. -/
def tellCalling (isLong : Bool) (names : List String) : Script Unit := do
  let s ← get
  setStatus 0
  (if s.isBash then names else names.take 1).forM fun name => do
    match meaning? s name with
    | some meaning =>
      learnOf name meaning
      tell [if isLong then name ++ described s name meaning else calling s name meaning]
    | none =>
      if isLong then
        if s.isBash then complain (name ++ ": not found")
        else
          let _ ← write 1 (Octets.bytes (name ++ ": not found\n"))
      setStatus (if s.isBash then 1 else 127)

/-- Looks for programs in advance, or says which have been found. -/
def hash (words : List String) : Script Unit := do
  let s ← get
  let (options, names) := letterOptions words
  let letters := if s.isBash then "rlpdt".toList else ['r']
  match options.find? fun (_, c) => !letters.contains c with
  | some (_, c) =>
    refuseOption s.isBash c "hash: usage: hash [-lr] [-p pathname] [-dt] [name ...]"
  | none =>
    setStatus 0
    if options.any fun (_, c) => c == 'r' then modify fun s => { s with known := [] }
    else if names.isEmpty then
      let paths := (learned s).filterMap fun name => (executable s name).toOption.map (·.path)
      if !s.isBash then tell paths
      else if paths.isEmpty then tell ["hash: hash table empty"]
      else tell ("hits\tcommand" :: paths.map ("   1\t" ++ ·))
    names.forM fun name => do
      if (executable s name).isOk then learn name
      else if !(builtins s.dialect ++ Reading.specialBuiltins).contains name then
        note (name ++ ": not found") 1

end BoardDebug.Build.Shell.Script
