import BoardDebug.Breakpoint
import BoardDebug.Image.Load
import BoardDebug.Procedure
import BoardDebug.Text.Quoted

namespace BoardDebug

/-- What a compiler says about the program it made. -/
structure Metadata where
  breakpoints : List Breakpoint
  procedures : List Procedure
deriving DecidableEq, Repr

namespace Metadata

structure Draft where
  breakpoints : Option (List Breakpoint) := none
  procedures : Option (List Procedure) := none

def record : Json.Record Draft Metadata where
  fields :=
    [.required "breakpoints" Draft.breakpoints (fun v d => { d with breakpoints := v })
        (.list Breakpoint.record.decoder),
      .defaulted "procDebugInfo" Draft.procedures (fun v d => { d with procedures := v })
        (.list Procedure.record.decoder)]
  unknown := .skipped
  blank := {}
  finish d := do
    let breakpoints ← d.breakpoints
    return { breakpoints, procedures := d.procedures.getD [] }

/-- Reads the JSON text that a compiler leaves. -/
def ofJson (bytes : Bytes) : Except Json.Fault Metadata :=
  record.decoder.run bytes

def toJson (m : Metadata) : Json.Value :=
  .object
    [("breakpoints", .list (m.breakpoints.map Breakpoint.toJson)),
      ("procDebugInfo", .list (m.procedures.map Procedure.toJson))]

end Metadata

/-- What a session debugs. -/
structure Program where
  breakpoints : List Breakpoint
  procedures : List Procedure
  image : Image

def Program.new (metadata : Metadata) (image : Image) : Program :=
  { breakpoints := metadata.breakpoints, procedures := metadata.procedures, image }

/-- How a command ends. -/
inductive ExitStatus where
  | exited (code : Nat)
  | signalled (number : Nat) (name : String)
deriving DecidableEq, Repr

def ExitStatus.isSignal : ExitStatus → Bool
  | exited _ => false
  | signalled _ _ => true

def ExitStatus.message : ExitStatus → String
  | exited code => s!"exit status: {code}"
  | signalled number name => s!"signal: {number} ({name})"

/-- Why there is no program to debug. -/
inductive CompileError where
  | notRun (command : String) (fault : FileFault)
  | failed (command : String) (status : ExitStatus) (output : String)
  | file (path : String) (fault : FileFault)
  | metadata (path : String) (fault : Json.Fault)
  | image (error : ImageError)
  | unsupported (what : String)
deriving DecidableEq

/-- The error and what caused it, outermost first. Where a JSON text goes wrong is not said. -/
def CompileError.chain : CompileError → List String
  | notRun command fault =>
    ["Failed to run build command " ++ Text.quoted command, fault.message]
  | failed command status output =>
    ["Build command " ++ Text.quoted command ++ " exited with " ++ status.message ++ ":\n" ++
      output]
  | file path fault => ["Failed to read " ++ Text.quoted path, fault.message]
  | metadata path _ => ["Failed to parse debug information in " ++ Text.quoted path]
  | image error => "Failed to load the binary image" :: error.chain
  | unsupported what => ["The compiler cannot produce " ++ what]

end BoardDebug
