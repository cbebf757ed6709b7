import BoardDebug.Editor
import BoardDebug.Session

namespace BoardDebug

/-- The settings of a session. -/
structure SessionConfig where
  strategy : HaltStrategy
  /-- How often to ask for a halt, in milliseconds. -/
  pollInterval : Nat
deriving DecidableEq, Repr

namespace SessionConfig

def standard : SessionConfig := ⟨.auto, 200⟩

structure Draft where
  strategy : Option HaltStrategy := none
  pollInterval : Option Nat := none

def record : Json.Record Draft SessionConfig where
  fields :=
    [.defaulted "halt_strategy" Draft.strategy (fun v d => { d with strategy := v })
        (.choice HaltStrategy.keys),
      .defaulted "poll_interval" Draft.pollInterval (fun v d => { d with pollInterval := v })
        (.natural 0xffffffffffffffff)]
  unknown := .refused
  blank := {}
  finish d := some
    { strategy := d.strategy.getD standard.strategy
      pollInterval := d.pollInterval.getD standard.pollInterval }

def ofJson (bytes : Bytes) : Except Json.Fault SessionConfig :=
  record.decoder.run bytes

def toJson (c : SessionConfig) : Json.Value :=
  .object [("halt_strategy", .text c.strategy.key), ("poll_interval", .natural c.pollInterval)]

def describe (c : SessionConfig) : String :=
  "SessionConfig \x7b halt_strategy: " ++ c.strategy.describe ++ ", poll_interval: " ++
    Text.showDuration c.pollInterval ++ " \x7d"

end SessionConfig

/-- Runs one session after the other on a device. -/
structure Controller where
  config : SessionConfig
  /-- The phase while there is no session. -/
  restPhase : Phase
  session : Option Session
  /-- Whether the link hands paused events on. They go to the latch of the session in place. -/
  listening : Bool

namespace Controller

def new (config : SessionConfig) : Controller where
  config
  restPhase := .idle
  session := none
  listening := false

def phase (c : Controller) : Phase :=
  match c.session with
  | some s => s.phase
  | none => c.restPhase

/-- What an event from the device does. -/
def notify (event : Event) (c : Controller) : Controller :=
  if c.listening ∧ event.code = Opcode.paused then
    match haltPlace event.payload with
    | .ok pc => { c with session := c.session.map (·.fulfill pc) }
    | .error _ => c
  else c

/-- Ends the session after an error, unless the error is harmless. -/
def settle {α : Type} (result : Except SessionError α) (c : Controller) : Controller :=
  match result with
  | .ok _ => c
  | .error error =>
    if error.isHarmless then c else { c with session := c.session.map (·.terminate) }

/-- Makes a call on the session, if there is one. -/
def onSession {α : Type} (call : Routine Session α) : Routine Controller α := fun c =>
  match c.session with
  | none => .done c (.error .noSession)
  | some s =>
    ((call s).within (·.session) (fun s c => { c with session := some s }) c).bind
      fun result c => .done (c.settle result) result

/-- Begins a session with a program, on a link with the given capabilities, and starts the device.
The device is left alone if there is no program, no breakpoint or no way to see halts. -/
def start (has : Capabilities) (compiled : Except CompileError Program) :
    Routine Controller Unit := do
  modify fun c => { c with session := none, restPhase := .starting }
  match compiled with
  | .error error => giveUp (.compile error)
  | .ok program =>
    match BreakpointTable.ofList? program.breakpoints with
    | none => giveUp .noBreakpoints
    | some table =>
      let config := (← get).config
      match Observer.install has config.strategy config.pollInterval with
      | .error error => giveUp (.link error)
      | .ok observer =>
        modify fun c =>
          { c with
            session := some (.new program table observer)
            listening := c.listening || observer == .push }
        onSession Session.flashAndArm
where
  giveUp (error : SessionError) : Routine Controller Unit := do
    modify fun c => { c with restPhase := .terminated }
    Routine.fail error

def waitForHalt : Routine Controller HaltMessage :=
  onSession Session.waitForHalt

/-- Starts a session and waits for the entry breakpoint. -/
def startDebug (has : Capabilities) (compiled : Except CompileError Program) :
    Routine Controller HaltMessage := do
  start has compiled
  waitForHalt

def step (into : Bool) : Routine Controller Unit :=
  onSession (Session.step into)

def handle (command : StepCommand) : Routine Controller Unit :=
  step command.isInto

def writeStatus (status : DebugStatus) : Routine Controller Bool :=
  onSession (Session.writeStatus status)

/-- Ends the session. -/
def finish (c : Controller) : Controller :=
  { c with session := none, restPhase := .idle }

/-- A controller without a session in one line, on a link that is described by `link`. -/
def describe (link : String) (c : Controller) : String :=
  "DebugSessionController \x7b link: " ++ link ++ ", config: " ++ c.config.describe ++
    ", phase: " ++ c.restPhase.describe ++ ", session: None, .. \x7d"

end Controller

end BoardDebug
