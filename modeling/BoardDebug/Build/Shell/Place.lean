import BoardDebug.Build.Shell.Names
import BoardDebug.Build.Tool.Mode

namespace BoardDebug.Build.Shell.Script

/-- A path from the root without names that lead nowhere or back. -/
def straight (path : String) : String :=
  let names := (path.splitOn "/").foldl
    (fun (names : List String) name =>
      if name = "" ∨ name = "." then names
      else if name = ".." then names.dropLast
      else names ++ [name])
    []
  "/" ++ "/".intercalate names

def absolute (here path : String) : String :=
  if path.startsWith "/" then path else here ++ "/" ++ path

def pathOf (place : Place) : String :=
  "/" ++ "/".intercalate place

/-- Works in another directory from now on. -/
def enter (place : Place) (here : String) : Script Unit := do
  let old := (← get).here
  modify fun s => { s with machine.files.here := place, here }
  ["OLDPWD", "PWD"].forM fun name =>
    modify fun s => { s with exported := name :: s.exported }
  assign "OLDPWD" old
  assign "PWD" here

/-- Tries to work in a directory. The path is taken as it is spelled unless it is `physical`. -/
def enter? (physical : Bool) (path : String) : Script (Except FileFault Unit) := do
  let s ← get
  let files := s.machine.files
  let target := if physical then path else straight (absolute s.here path)
  let isThere := physical || !s.isBash || (files.lookup true path).isOk
  match if isThere then files.find target else files.find path with
  | .error fault => return .error fault
  | .ok (place, node) =>
    if node.body = .directory then
      enter place (if physical then pathOf place else target)
      return .ok ()
    else return .error .notDirectory

/-- Whether a path is not looked for in other directories. -/
def isRooted (path : String) : Bool :=
  path.startsWith "/" || path = "." || path = ".." || path.startsWith "./" ||
    path.startsWith "../"

/-- Works in the first of some directories that has the one that is asked for. -/
def enterFirst (physical : Bool) (path : String) : List String → Script (Except FileFault Bool)
  | [] => return (← enter? physical path).map fun _ => false
  | start :: rest => do
    let joined := if start = "" then path else start ++ "/" ++ path
    if (← get).machine.files.isDirectory joined then
      return (← enter? physical joined).map fun _ => start ≠ ""
    else enterFirst physical path rest

/-- Changes the working directory. -/
def changeDirectory (words : List String) : Script Unit := do
  let s ← get
  let (options, words) := letterOptions words
  let isKnown (c : Char) : Bool := c == 'L' || c == 'P' || (s.isBash && (c == 'e' || c == '@'))
  match options.find? fun (_, c) => !isKnown c with
  | some (_, c) => refuseOption s.isBash c "cd: usage: cd [-L|[-P [-e]] [-@]] [dir]"
  | none =>
    let physical := options.getLast?.any fun (_, c) => c == 'P'
    let home := s.text? "HOME"
    let isBack := words.head? == some "-"
    let old := s.text? "OLDPWD"
    if s.isBash ∧ 1 < words.length then note "too many arguments" 1
    else if s.isBash ∧ words.isEmpty ∧ home.isNone then note "HOME not set" 1
    else if s.isBash ∧ isBack ∧ old.isNone then note "OLDPWD not set" 1
    else
      let path := if isBack then old.getD "" else words.headD (home.getD "")
      let path' := if path = "" then "." else path
      let starts := if isRooted path' then [] else ((s.text? "CDPATH").map (·.splitOn ":")).getD []
      match ← enterFirst physical path' starts with
      | .ok isFound => if isFound ∨ isBack then tell [(← get).here] else setStatus 0
      | .error fault =>
        if s.isBash then note (path ++ ": " ++ Tool.reason fault) 1
        else refuse ("can't cd to " ++ path) 2

/-- Writes the path of the working directory. -/
def tellDirectory (words : List String) : Script Unit := do
  let s ← get
  let (options, _) := letterOptions words
  match options.find? fun (_, c) => !(c == 'L' || c == 'P') with
  | some (_, c) => refuseOption s.isBash c "pwd: usage: pwd [-LP]"
  | none =>
    let physical := options.getLast?.any fun (_, c) => c == 'P'
    say "pwd" (Octets.bytes ((if physical then pathOf s.machine.files.here else s.here) ++ "\n"))

/-- The rights of a mode in words. -/
def rightsText (mode : Nat) : String :=
  let rights (bits : Nat) : String :=
    (if 4 ≤ bits then "r" else "") ++ (if 2 ≤ bits % 4 then "w" else "") ++
      (if bits % 2 = 1 then "x" else "")
  "u=" ++ rights (mode / 64 % 8) ++ ",g=" ++ rights (mode / 8 % 8) ++ ",o=" ++ rights (mode % 8)

/-- Changes what may not be done with new files, or writes that. -/
def changeMask (words : List String) : Script Unit := do
  let s ← get
  let mask := s.machine.files.mask
  let (options, words) := if words.head?.any (fun word => word.startsWith "-" ∧ word ≠ "-")
    then letterOptions words else ([], words)
  match options.find? fun (_, c) => !(c == 'S' || (s.isBash && c == 'p')) with
  | some (_, c) => refuseOption s.isBash c "umask: usage: umask [-p] [-S] [mode]"
  | none =>
    match words with
    | [] =>
      let digits := String.ofList (Text.zeroFill 4 (Nat.toDigits 8 mask))
      tell [if options.any fun (_, c) => c == 'S' then rightsText (0o777 - mask) else digits]
    | word :: _ =>
      let setMask (mask : Nat) : Script Unit := do
        modify fun s => { s with machine.files.mask := mask }
        setStatus 0
      if word.toList.head?.any Char.isDigit then
        match Text.digits? 8 word.toList with
        | some mask => setMask (mask % 512)
        | none =>
          if s.isBash then note (word ++ ": octal number out of range") 1
          else refuse ("Illegal number: " ++ word) 2
      else
        match Tool.Mode.of? word with
        | some change => setMask (0o777 - change 0 false (0o777 - mask) % 512)
        | none =>
          if s.isBash then
            note ("\x60" ++ (word.drop (word.length - 1)).toString ++
              "': invalid symbolic mode character") 1
          else refuse ("Illegal mode: " ++ word) 2

end BoardDebug.Build.Shell.Script
