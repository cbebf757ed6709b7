import BoardDebug.Build.Artifacts
import BoardDebug.Hf2.Options
import BoardDebug.Session.Controller
import BoardDebug.Settings.Layer

namespace BoardDebug

/-- How much is logged. -/
inductive LogLevel where
  | off
  | error
  | warn
  | info
  | debug
  | trace
deriving DecidableEq

namespace LogLevel

def key : LogLevel → String
  | off => "OFF"
  | error => "ERROR"
  | warn => "WARN"
  | info => "INFO"
  | debug => "DEBUG"
  | trace => "TRACE"

def keys : List (String × LogLevel) :=
  [off, error, warn, info, debug, trace].map fun level => (level.key, level)

end LogLevel

/-- Settings of the program itself. -/
structure GeneralSettings where
  logLevel : Option LogLevel
  logFile : Option String

/-- All that can be set. -/
structure Settings where
  general : GeneralSettings
  device : Hf2.Options
  session : SessionConfig
  artifacts : Artifacts

namespace Settings

/-- Reads a setting from its value. -/
abbrev Reader (α : Type) := Json.Value → Option α

namespace Reader

variable {α : Type}

def natural (limit : Nat) : Reader Nat
  | .natural n => if n ≤ limit then some n else none
  | _ => none

def halfWord : Reader UInt16 := fun value => (natural 0xffff value).map .ofNat

def word : Reader UInt32 := fun value => (natural 0xffffffff value).map .ofNat

def milliseconds : Reader Nat := natural 0xffffffffffffffff

def text : Reader String
  | .text s => some s
  | _ => none

def texts : Reader (List String)
  | .list items => items.mapM text
  | _ => none

/-- A value, or nothing. -/
def optional (read : Reader α) : Reader (Option α)
  | .null => some none
  | value => (read value).map some

/-- One of a few names, alone or as the name of nothing. -/
def choice (names : List (String × α)) : Reader α
  | .text name => names.lookup name
  | .object ((name, .null) :: _) => names.lookup name
  | _ => none

/-- The members of a table with the given names, which may also be a list of their values. -/
def members (names : List String) : Reader Layer
  | .object members => some members
  | .list items => some (names.zip items)
  | _ => none

/-- Refuses names that have no meaning. -/
def only (names : List String) (table : Layer) : Option Unit :=
  if table.all fun (name, _) => names.contains name then some () else none

/-- A setting under a name, or what counts without it. -/
def under (table : Layer) (name : String) (standard : α) (read : Reader α) : Option α :=
  match Sorted.find? name table with
  | some value => read value
  | none => some standard

/-- A setting that has to be there. -/
def needed (table : Layer) (name : String) (read : Reader α) : Option α :=
  (Sorted.find? name table).bind read

end Reader

open Reader

def readGeneral : Reader GeneralSettings := fun value => do
  let names := ["log_level", "log_file"]
  let table ← members names value
  only names table
  let logLevel ← under table "log_level" none (optional (choice LogLevel.keys))
  let logFile ← under table "log_file" none (optional text)
  return { logLevel, logFile }

def readDevice : Reader Hf2.Options := fun value => do
  let names :=
    ["vendor_id", "product_id", "serial_number", "request_timeout", "reconnect_timeout"]
  let table ← members names value
  only names table
  let usual := Hf2.Options.standard
  let vendorId ← under table "vendor_id" usual.vendorId (optional halfWord)
  let productId ← under table "product_id" usual.productId (optional halfWord)
  let serialNumber ← under table "serial_number" usual.serialNumber (optional text)
  let requestTimeout ← under table "request_timeout" usual.requestTimeout milliseconds
  let reconnectTimeout ← under table "reconnect_timeout" usual.reconnectTimeout milliseconds
  return { vendorId, productId, serialNumber, requestTimeout, reconnectTimeout }

def readSession : Reader SessionConfig := fun value => do
  let names := ["halt_strategy", "poll_interval"]
  let table ← members names value
  only names table
  let usual := SessionConfig.standard
  let strategy ← under table "halt_strategy" usual.strategy (choice HaltStrategy.keys)
  let pollInterval ← under table "poll_interval" usual.pollInterval milliseconds
  return { strategy, pollInterval }

/-- Names without a meaning are passed over here. -/
def readArtifacts : Reader Artifacts := fun value => do
  let table ← members ["build_command", "debug_info", "binary", "format", "base_address"] value
  let usual := Artifacts.standard
  let buildCommand ← under table "build_command" usual.buildCommand texts
  let debugInfo ← under table "debug_info" usual.debugInfo text
  let binary ← under table "binary" usual.binary text
  let format ← under table "format" usual.format (optional (choice ImageFormat.keys))
  let baseAddress ← under table "base_address" usual.baseAddress word
  return { buildCommand, debugInfo, binary, format, baseAddress }

/-- The settings in a layer that holds all sections. -/
def ofLayer? (table : Layer) : Option Settings := do
  only ["general", "device", "session", "artifacts"] table
  let general ← needed table "general" readGeneral
  let device ← needed table "device" readDevice
  let session ← needed table "session" readSession
  let artifacts ← needed table "artifacts" readArtifacts
  return { general, device, session, artifacts }

/-- What counts where no source says anything. -/
def usual : Layer :=
  Sorted.ofList
    [("general", .object []),
      ("device", .object (Sorted.ofList
        [("request_timeout", .natural 2000), ("reconnect_timeout", .natural 10000)])),
      ("session", .object (Sorted.ofList
        [("halt_strategy", .text "auto"), ("poll_interval", .natural 200)])),
      ("artifacts", .object (Sorted.ofList
        [("build_command", .list []), ("debug_info", .text "built/debug-info.json"),
          ("binary", .text "built/binary.uf2"), ("base_address", .natural 0)]))]

def toJson (s : Settings) : Json.Value :=
  .object
    [("general", .object
        [("log_level", Json.ofOption (fun level => .text level.key) s.general.logLevel),
          ("log_file", Json.ofOption .text s.general.logFile)]),
      ("device", s.device.toJson), ("session", s.session.toJson),
      ("artifacts", s.artifacts.toJson)]

end Settings

end BoardDebug
