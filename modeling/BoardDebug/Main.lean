import BoardDebug.CommandLine.DebugRun
import BoardDebug.Settings.Sources
import BoardDebug.Usb.Scripted

namespace BoardDebug.Main

open CommandLine

/-- Adds a file of the working directory to `files`, if it is there. -/
def addFile (files : Files) (path : String) : IO Files := do
  try
    let bytes ← IO.FS.readBinFile path
    return files.put path (.file bytes.toList)
  catch _ => return files

/-- The variables that may give settings. -/
def environment : IO (List (String × String)) := do
  let names := ["LOG_LEVEL", "LOG_FILE"].map ("GENERAL__" ++ ·) ++
    ["VENDOR_ID", "PRODUCT_ID", "SERIAL_NUMBER", "REQUEST_TIMEOUT", "RECONNECT_TIMEOUT"].map
      ("DEVICE__" ++ ·) ++
    ["HALT_STRATEGY", "POLL_INTERVAL"].map ("SESSION__" ++ ·) ++
    ["BUILD_COMMAND", "DEBUG_INFO", "BINARY", "FORMAT", "BASE_ADDRESS"].map ("ARTIFACTS__" ++ ·)
  names.filterMapM fun name => do
    let name := "HF2DBG_" ++ name
    return (← IO.getEnv name).map fun value => (name, value)

/-- A settings file that was asked for, and the other arguments. -/
def splitArguments : List String → Option String × List String
  | "--config" :: path :: rest => (some path, rest)
  | arguments => (none, arguments)

/-- Runs a command. No device can be reached, so the bus is empty. -/
def run (asked : Option String) (command : Command) : IO UInt32 := do
  let files ← (Settings.fileNames ++ asked.toList).foldlM addFile .empty
  match Settings.load files asked (← environment) with
  | .error error =>
    IO.eprintln error.message
    return 1
  | .ok settings =>
    let settings := match command with
      | .list => settings
      | .debug arguments => arguments.apply settings
    let files ← [settings.artifacts.debugInfo, settings.artifacts.binary].foldlM addFile files
    let finished := command.run settings files [] ScriptedBus.empty
    finished.output.forM fun line => IO.println line
    match finished.failure with
    | some chain =>
      IO.eprintln (": ".intercalate chain)
      return 1
    | none => return 0

end BoardDebug.Main

/-- Reads the command line and runs the command. -/
def main (arguments : List String) : IO UInt32 := do
  let (asked, arguments) := BoardDebug.Main.splitArguments arguments
  match BoardDebug.CommandLine.Command.parse arguments with
  | .ok command => BoardDebug.Main.run asked command
  | .error error =>
    IO.eprintln error.name
    return 2
