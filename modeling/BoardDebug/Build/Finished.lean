import BoardDebug.Files
import BoardDebug.Program

namespace BoardDebug.Build

/-- What a command leaves. In all texts of a build each character stands for one byte. -/
structure Finished where
  files : Files
  /-- What is left of the bytes that it was given to read. -/
  input : Bytes
  /-- Whether these bytes are a file, so that what was read too much can be left. -/
  isFile : Bool
  /-- What it wrote, in order, and whether that was meant as a complaint. -/
  writes : List (Bool × Bytes)
  status : ExitStatus
  /-- What can be read besides, by the paths that stand for it. -/
  channels : List (String × Bytes) := []
  /-- Why there is nothing that can be read, and whether it was tried. -/
  fault : Option FileFault := none
  hasTried : Bool := false

namespace Finished

def start (files : Files) (input : Bytes) (isFile : Bool) : Finished :=
  { files, input, isFile, writes := [], status := .exited 0 }

/-- All complaints. -/
def errors (done : Finished) : Bytes :=
  (done.writes.filter (·.1)).flatMap (·.2)

end Finished

/-- What a tool does; it may stop at any point. -/
abbrev Work := ExceptT Unit (StateM Finished)

namespace Work

def finish (act : Work Unit) (start : Finished) : Finished :=
  (act.run.run start).2

def stop {α : Type} : Work α :=
  throw ()

def setStatus (status : Nat) : Work Unit :=
  modify fun done => { done with status := .exited status }

def quit {α : Type} (status : Nat) : Work α := do
  setStatus status
  stop

def write (isError : Bool) (bytes : Bytes) : Work Unit :=
  if bytes.isEmpty then return ()
  else modify fun done => { done with writes := done.writes ++ [(isError, bytes)] }

def print (bytes : Bytes) : Work Unit :=
  write false bytes

def say (text : String) : Work Unit :=
  print (Octets.bytes text)

/-- Complains, and so fails. -/
def complain (text : String) : Work Unit := do
  write true (Octets.bytes (text ++ "\n"))
  setStatus 1

def files : Work Files := do
  return (← get).files

def changeFiles (act : Files → Files) : Work Unit :=
  modify fun done => { done with files := act done.files }

/-- Takes all that is there to be read. -/
def takeInput : Work Bytes := do
  let input := (← get).input
  modify fun done => { done with input := [] }
  return input

/-- Takes all that is there to be read, or complains that nothing can be. -/
def takeInputOr (complaint : FileFault → String) : Work Bytes := do
  match (← get).fault with
  | some fault =>
    modify fun done => { done with hasTried := true }
    complain (complaint fault)
    return []
  | none => takeInput

/-- Complains if nothing can be read. -/
def tryInput (complaint : FileFault → String) : Work Unit := do
  if (← get).fault.isSome then
    let _ ← takeInputOr complaint

/-- Whether a path means what is there to be read. -/
def isInput (path : String) : Bool :=
  ["/dev/stdin", "/dev/fd/0", "/proc/self/fd/0"].contains path

/-- The bytes of a file, or those that are there to be read. -/
def contents (path : String) : Work (Except FileFault Bytes) := do
  let done ← get
  if path = "-" ∨ isInput path then
    match done.fault with
    | some fault =>
      if path ≠ "-" ∧ fault ≠ .isDirectory then return .error .missing
      else
        modify fun done => { done with hasTried := true }
        return .error fault
    | none => return .ok (← takeInput)
  else
    match done.channels.find? fun (p, _) => p = path with
    | some (_, bytes) => return .ok bytes
    | none => return done.files.contents path

/-- Puts bytes into a file, which may be new. -/
def store (path : String) (bytes : Bytes) : Work (Except FileFault Unit) := do
  if path = "/dev/stdout" then
    print bytes
    return .ok ()
  else if path = "/dev/stderr" then
    write true bytes
    return .ok ()
  else
    let tree ← files
    match tree.lookup true path with
    | .error .missing =>
      return .error (if path.endsWith "/" then .isDirectory else .missing)
    | .error fault => return .error fault
    | .ok place =>
      match tree.number? place, tree.body? place with
      | _, some .directory => return .error .isDirectory
      | some number, _ =>
        changeFiles (·.setBytes number bytes)
        return .ok ()
      | none, _ =>
        changeFiles (·.create place (.file bytes))
        return .ok ()

end Work

end BoardDebug.Build
