import BoardDebug.Build.Shell.Batch
import BoardDebug.Build.Shell.Find
import BoardDebug.Build.Shell.Record

namespace BoardDebug.Build.Shell.Script

/-- The programs that start others, or look at what is handed on to them. -/
def starters : List (String × (Start → List String → Script ExitStatus)) :=
  [("awk", Record.run), ("env", env), ("find", Find.run), ("mawk", Record.run), ("nice", nice),
    ("nohup", nohup), ("printenv", fun _ => printenv), ("setsid", setsid), ("stdbuf", stdbuf),
    ("timeout", timeout), ("which", fun _ => which), ("xargs", Batch.run)]

def shells : List (String × Dialect) :=
  [("sh", .sh), ("dash", .sh), ("bash", .bash)]

/-- The names of all programs. -/
def programNames : List String :=
  Tool.all.map (·.1) ++ starters.map (·.1) ++ shells.map (·.1)

/-- The name by which a program complains at its end that it has nothing open to read. -/
def closingName? (name : String) : Option String :=
  if name = "cat" then some "closing standard input"
  else if ["od", "tee", "cksum", "sum", "md5sum", "sha1sum", "sha224sum", "sha256sum",
      "sha384sum", "sha512sum"].contains name then some "standard input"
  else if ["cut", "expand", "fold", "head", "nl", "paste", "tac", "tail", "unexpand", "wc"].contains
      name then some "-"
  else none

/-- What a program does, with the complaint at its end. -/
def withClosing (name : String) (act : Work Unit) (start : Finished) : Finished :=
  let done := act.finish start
  match done.fault, closingName? name with
  | some (.described reason), some what =>
    if done.hasTried then
      let text := name ++ ": " ++ what ++ ": " ++ reason ++ "\n"
      { done with writes := done.writes ++ [(true, Octets.bytes text)], status := .exited 1 }
    else done
  | _, _ => done

/-- Runs a program that only reads and writes. -/
def runTool (name : String) (act : Work Unit) : Script ExitStatus := do
  let (status, isWritten) ← tool (Tool.late.contains name) (withClosing name act)
  if !isWritten ∧ (← flow? 1).isNone then
    let what := if name = "cat" then ": standard output" else ": write error"
    warn (name ++ what ++ ": Bad file descriptor\n")
    return .exited (if name = "ls" ∨ name = "sort" then 2 else 1)
  else return status

/-- Runs a program that is called by some name. -/
def runNamed (runText : Source → Script Unit) (start : Start) (program name : String)
    (words : List String) : Script (Except FileFault ExitStatus) := do
  match look name shells, look name starters, Tool.named? name with
  | some dialect, _, _ => return .ok (← startShell runText dialect program words)
  | none, some act, _ => return .ok (← act start words)
  | none, none, some act => return .ok (← runTool name (act words))
  | none, none, none => return .error .missing

/-- Runs a program, if it can be found. Scripts that do not say what runs them are run in the
language that is given. -/
def launch (runText : Source → Script Unit) : Nat → (texts : Option Dialect) → Start
  | 0, _, _, _ => throw .stuck
  | fuel + 1, texts, program, words => do
    match executable (← get) program with
    | .error fault => return .error fault
    | .ok ⟨path, node⟩ =>
      match node.body with
      | .tool name => runNamed runText (launch runText fuel (some .sh)) program name words
      | .file bytes =>
        match interpreter? bytes, texts with
        | some (other, options), _ => launch runText fuel none other (options ++ path :: words)
        | none, none => return .error .notProgram
        | none, some dialect =>
          if isBinary dialect bytes then return .error .notProgram
          else return .ok (← startShell runText dialect "sh" (path :: words))
      | _ => return .error .denied

end BoardDebug.Build.Shell.Script
