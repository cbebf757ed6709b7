import BoardDebug.CommandLine.DebugCommand
import BoardDebug.Hf2.Link
import BoardDebug.Link
import BoardDebug.Text.Show

namespace BoardDebug.CommandLine

/-- What a run leaves behind. -/
structure Finished (β : Type) where
  /-- The lines that were written. -/
  output : List String
  /-- The error that ended the run, with its causes. -/
  failure : Option (List String)
  bus : β

/-- A session on a link, with the lines written so far. -/
structure DebugRun (δ : Type) where
  controller : Controller
  link : δ
  output : List String

/-- How a part of a run ends. -/
inductive Ending where
  | goesOn
  /-- It waits for a halt that does not come. -/
  | waits
  | failed (chain : List String)

namespace DebugRun

variable {δ : Type} [Link δ]

/-- Makes a call on the controller. -/
def call {α : Type} (run : DebugRun δ) (routine : Routine Controller α) :
    Option (Except SessionError α) × DebugRun δ :=
  let done := (routine run.controller).run Controller.notify run.link
  (done.result, { run with controller := done.state, link := done.link })

/-- Writes what a halt says. -/
def report (run : DebugRun δ) (message : HaltMessage) : DebugRun δ :=
  { run with output := run.output ++ [message.line] }

/-- Makes a call that comes to a halt, and reports it. `context` is put in front of an error. -/
def halt (run : DebugRun δ) (context : List String) (routine : Routine Controller HaltMessage) :
    Ending × DebugRun δ :=
  match run.call routine with
  | (some (.ok message), run) => (.goesOn, run.report message)
  | (some (.error error), run) => (.failed (context ++ error.chain), run)
  | (none, run) => (.waits, run)

/-- Carries a command out, up to the next halt. -/
def carryOut (run : DebugRun δ) (command : StepCommand) : Ending × DebugRun δ :=
  match run.call (Controller.handle command) with
  | (some (.ok ()), run) => run.halt [] Controller.waitForHalt
  | (some (.error error), run) => (.failed error.chain, run)
  | (none, run) => (.waits, run)

/-- The command on a line of input. Lines that are blank, malformed or for somebody else have
none. -/
def command? (line : List Char) : Option StepCommand :=
  match StepCommand.parse (Utf8.encode (Text.trim line)) with
  | .ok command => command
  | .error _ => none

/-- The lines of what can be read, without the line feeds that end them. -/
def inputLines : Bytes → List Bytes
  | [] => []
  | byte :: rest =>
    if byte = 0x0a then [] :: inputLines rest
    else
      match inputLines rest with
      | [] => [[byte]]
      | line :: more => (byte :: line) :: more

/-- Carries the commands on lines of input out, up to the first that fails or the first line that is
no text. -/
def carryOutAll (run : DebugRun δ) : List Bytes → Ending × DebugRun δ
  | [] => (.goesOn, run)
  | line :: rest =>
    match Utf8.decode? line with
    | none => (.failed ["stream did not contain valid UTF-8"], run)
    | some text =>
      match command? text with
      | none => run.carryOutAll rest
      | some command =>
        match run.carryOut command with
        | (.goesOn, run) => run.carryOutAll rest
        | ended => ended

end DebugRun

/-- Opens the device that is meant. -/
def connect {β : Type} [UsbBus β] (options : Hf2.Options) :
    StateM β (Except LinkError (Hf2Link β)) := fun bus =>
  match Hf2Link.connect options bus with
  | .ok link => (.ok link, link.bus)
  | .error error => (.error error, bus)

/-- Flashes a program and debugs it by the commands in `input`, of which the build command may read
some before. -/
def debug {β : Type} [UsbBus β] (settings : Settings) (files : Files) (input : Bytes)
    (bus : β) : Finished β :=
  let ((connected, _), bus) := (LazyLink.new.getOrConnect (connect settings.device)).run bus
  match connected with
  | .error error => ⟨[], some ("Failed to open the HF2 device" :: error.chain), bus⟩
  | .ok link =>
    let (program, after) := settings.artifacts.compile .forSession ⟨files, input⟩
    let run : DebugRun (Hf2Link β) := ⟨.new settings.session, link, []⟩
    let started := run.halt ["Failed to start the debug session"]
      (Controller.startDebug (Link.capabilities link) program)
    let (ending, run) := match started with
      | (.goesOn, run) => run.carryOutAll (DebugRun.inputLines after.input)
      | ended => ended
    let failure := match ending with
      | .failed chain => some chain
      | _ => none
    ⟨run.output, failure, run.link.bus⟩

/-- Lists the devices. -/
def list {β : Type} [UsbBus β] (bus : β) : Finished β :=
  match Hf2.listDevices bus with
  | .error error => ⟨[], some error.chain, bus⟩
  | .ok [] => ⟨["No HF2 devices were found."], none, bus⟩
  | .ok devices =>
    let lines := devices.zipIdx.map fun (device, number) => s!"[{number}]: {device.line}"
    ⟨"The following HF2 devices were found:" :: lines, none, bus⟩

/-- A command, with what is given for it. -/
inductive Command where
  | list
  | debug (arguments : DebugArguments)

/-- Reads a command line. Without a command, a session is debugged. -/
def Command.parse : List String → Except UsageError Command
  | [] => (DebugArguments.parse []).map .debug
  | "list" :: arguments => (CommandLine.parse [] () arguments).map fun _ => .list
  | "debug" :: arguments => (DebugArguments.parse arguments).map .debug
  | _ => .error .unknownArgument

def Command.run {β : Type} [UsbBus β] (command : Command) (settings : Settings) (files : Files)
    (input : Bytes) (bus : β) : Finished β :=
  match command with
  | list => CommandLine.list bus
  | debug arguments => CommandLine.debug (arguments.apply settings) files input bus

end BoardDebug.CommandLine
