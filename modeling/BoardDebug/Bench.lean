import BoardDebug.Build.Artifacts
import BoardDebug.Device.Simulated
import BoardDebug.Session.Controller

namespace BoardDebug

/-- How long each kind of request takes, in milliseconds. -/
structure Latencies where
  talk : Nat
  readWords : Nat
  writeWords : Nat
  flash : Nat
  queryHalt : Nat

namespace Latencies

def none : Latencies := ⟨0, 0, 0, 0, 0⟩

def get (l : Latencies) : RequestKind → Nat
  | .talk _ => l.talk
  | .readWords => l.readWords
  | .writeWords => l.writeWords
  | .flash => l.flash
  | .queryHalt => l.queryHalt

def set (l : Latencies) (milliseconds : Nat) : RequestKind → Latencies
  | .talk _ => { l with talk := milliseconds }
  | .readWords => { l with readWords := milliseconds }
  | .writeWords => { l with writeWords := milliseconds }
  | .flash => { l with flash := milliseconds }
  | .queryHalt => { l with queryHalt := milliseconds }

end Latencies

/-- A simulated device whose answers can be replaced and whose requests take time. -/
structure Rig where
  device : SimulatedDevice
  /-- The front one answers the next command with its code, which never reaches the device. -/
  talkAnswers : List (UInt32 × Except LinkError Bytes)
  /-- The front one answers the next reading. -/
  readAnswers : List (List UInt32)
  latencies : Latencies
  /-- Whether the link knows nothing of halt status queries, whatever the device can do. -/
  isPlain : Bool

namespace Rig

def new (device : SimulatedDevice) : Rig where
  device
  talkAnswers := []
  readAnswers := []
  latencies := .none
  isPlain := false

def answerTalk (rig : Rig) (opcode : UInt32) (answer : Except LinkError Bytes) : Rig :=
  { rig with talkAnswers := rig.talkAnswers ++ [(opcode, answer)] }

def answerRead (rig : Rig) (words : List UInt32) : Rig :=
  { rig with readAnswers := rig.readAnswers ++ [words] }

/-- The time that a request takes. -/
def latency (rig : Rig) (request : Request) : Nat :=
  if rig.isPlain ∧ request.kind = .queryHalt then 0 else rig.latencies.get request.kind

/-- Passes a request on to the device. -/
def forward (rig : Rig) (request : Request) : Served Rig request :=
  let served := rig.device.serve request
  ⟨served.answer, { rig with device := served.link }, served.events⟩

def serve (rig : Rig) : (request : Request) → Served Rig request
  | .talk opcode payload =>
    match rig.talkAnswers with
    | (code, answer) :: later =>
      if code = opcode then ⟨answer, { rig with talkAnswers := later }, []⟩
      else rig.forward (.talk opcode payload)
    | [] => rig.forward (.talk opcode payload)
  | .readWords address count =>
    match rig.readAnswers with
    | words :: later => ⟨.ok words, { rig with readAnswers := later }, []⟩
    | [] => rig.forward (.readWords address count)
  | .queryHalt =>
    if rig.isPlain then ⟨.error (.unsupported "halt status queries"), rig, []⟩
    else rig.forward .queryHalt
  | .writeWords address words => rig.forward (.writeWords address words)
  | .flash image => rig.forward (.flash image)

instance : Link Rig where
  capabilities rig := rig.device.capabilities
  serve := serve

end Rig

/-- A halt to come. -/
structure Alarm where
  due : Nat
  pc : UInt32

/-- A controller at work on a rig. Time is virtual: it stands still while there is something to do
and jumps to the next occasion when everything waits. -/
structure Bench where
  /-- Milliseconds since the beginning. -/
  now : Nat
  controller : Controller
  rig : Rig
  alarms : List Alarm
  files : Files
  /-- The first one makes the next program; the last one stays. -/
  compilers : List Compiler

/-- Something that happens without the controller's caller. -/
inductive Occasion where
  /-- The task that asks for halts goes on. -/
  | poll (interval : Nat) (stage : PollStage)
  | alarm (alarm : Alarm)

namespace Bench

def new (config : SessionConfig) (rig : Rig) (files : Files) (compilers : List Compiler) :
    Bench where
  now := 0
  controller := .new config
  rig
  alarms := []
  files
  compilers

/-- Tells the controller what the device sent. -/
def deliver (bench : Bench) (events : List Event) : Bench :=
  { bench with controller := events.foldl (fun c e => c.notify e) bench.controller }

/-- Serves a request and tells the controller what the device sent meanwhile. -/
def serve (bench : Bench) (request : Request) : Except LinkError request.Reply × Bench :=
  let served := bench.rig.serve request
  (served.answer, { bench with rig := served.link }.deliver served.events)

/-- Stops the device. -/
def haltNow (bench : Bench) (pc : UInt32) : Bench :=
  let (device, events) := bench.rig.device.haltNow pc
  { bench with rig := { bench.rig with device } }.deliver events

/-- Stops the device some time from now. -/
def haltAfter (bench : Bench) (milliseconds : Nat) (pc : UInt32) : Bench :=
  { bench with alarms := ⟨bench.now + milliseconds, pc⟩ :: bench.alarms }

/-- The alarm that is due first. -/
def firstAlarm? (bench : Bench) : Option Alarm :=
  match bench.alarms with
  | [] => none
  | alarm :: rest => some (rest.foldl (fun a b => if b.due < a.due then b else a) alarm)

/-- What the task of the session is about to do, and when. -/
def polling? (bench : Bench) : Option (Nat × Occasion) :=
  match bench.controller.session.bind (·.observer) with
  | some (.poll interval stage) =>
    (stage.wakesAt? bench.now).map fun time => (time, .poll interval stage)
  | _ => none

/-- What happens next, and when. -/
def nextOccasion? (bench : Bench) : Option (Nat × Occasion) :=
  match bench.polling?, bench.firstAlarm? with
  | polling, none => polling
  | none, some alarm => some (alarm.due, .alarm alarm)
  | some (time, poll), some alarm =>
    if alarm.due < time then some (alarm.due, .alarm alarm) else some (time, poll)

def modifySession (bench : Bench) (f : Session → Session) : Bench :=
  { bench with
    controller := { bench.controller with session := bench.controller.session.map f } }

def setStage (bench : Bench) (interval : Nat) (stage : PollStage) : Bench :=
  bench.modifySession fun s => { s with observer := some (.poll interval stage) }

def isWaiting (bench : Bench) : Bool :=
  match bench.controller.session with
  | some s => s.latch.isWaiting
  | none => false

/-- Lets the task that asks for halts go on. A failure ends it. -/
def poll (bench : Bench) (interval : Nat) : PollStage → Bench
  | .fresh => bench.setStage interval (.begin interval bench.now)
  | .asleep due =>
    let latency := bench.rig.latency .queryHalt
    bench.setStage interval (.tick interval latency bench.now due bench.isWaiting)
  | .asking due _ =>
    match bench.serve .queryHalt with
    | (.ok (some pc), bench) => (bench.modifySession (·.fulfill pc)).setStage interval (.asleep due)
    | (.ok none, bench) => bench.setStage interval (.asleep due)
    | (.error error, bench) =>
      (bench.modifySession fun s => { s with latch := (s.latch.fail error).2 }).setStage interval
        .ended
  | .ended => bench

/-- Lets an occasion take place, at its time. -/
def happen (bench : Bench) (time : Nat) (occasion : Occasion) : Bench :=
  let bench := { bench with now := time }
  match occasion with
  | .poll interval stage => bench.poll interval stage
  | .alarm alarm =>
    { bench with alarms := bench.alarms.filter (·.due ≠ alarm.due) }.haltNow alarm.pc

/-- More occasions than can take place before `stop`: each tick of the task is due a millisecond
after the one before it at least, and has one answer. -/
def occasionBound (bench : Bench) (stop : Nat) : Nat :=
  2 * (stop - bench.now + PollStage.tolerance) + bench.alarms.length + 4

/-- Lets what comes before `stop` take place, until `enough` says that it is enough. -/
def proceed {α : Type} (stop : Nat) (enough : Bench → Option α) : Nat → Bench → Option α × Bench
  | 0, bench => (enough bench, bench)
  | fuel + 1, bench =>
    match enough bench with
    | some a => (some a, bench)
    | none =>
      match bench.nextOccasion? with
      | some (time, occasion) =>
        if time < stop then proceed stop enough fuel (bench.happen time occasion)
        else (none, { bench with now := stop })
      | none => (none, { bench with now := stop })

/-- Lets the time pass up to `stop`. -/
def pass (bench : Bench) (stop : Nat) : Bench :=
  (proceed stop never (bench.occasionBound stop) bench).2
where
  never (_ : Bench) : Option Empty := none

/-- Lets some time pass. -/
def sleep (bench : Bench) (milliseconds : Nat) : Bench :=
  bench.pass (bench.now + milliseconds)

/-- Makes a call and gives it up at `deadline`; then there is no result. -/
def drive {α : Type} (deadline : Nat) : Call Controller α → Bench → Option α × Bench
  | .done controller result, bench => (some result, { bench with controller })
  | .ask controller request next, bench =>
    let bench := { bench with controller }
    let answered := bench.now + bench.rig.latency request
    if answered = bench.now then
      let (answer, bench) := bench.serve request
      drive deadline (next answer bench.controller) bench
    else if answered < deadline then
      let (answer, bench) := (bench.pass answered).serve request
      drive deadline (next answer bench.controller) bench
    else (none, bench.pass deadline)
  | .await controller ready next, bench =>
    let bench := { bench with controller }
    let enough (bench : Bench) := ready bench.controller
    match proceed deadline enough (bench.occasionBound deadline) bench with
    | (some outcome, bench) => drive deadline (next outcome bench.controller) bench
    | (none, bench) => (none, bench)

/-- Makes a call with the given time to finish. -/
def call {α : Type} (bench : Bench) (timeout : Nat) (routine : Routine Controller α) :
    Option (Except SessionError α) × Bench :=
  drive (bench.now + timeout) (routine bench.controller) bench

/-- Makes the next program. -/
def compile (bench : Bench) : Except CompileError Program × Bench :=
  match bench.compilers with
  | [] => (.error (.unsupported "everything"), bench)
  | compiler :: later =>
    let (program, files) := compiler.compile .forSession bench.files
    (program, { bench with files, compilers := if later.isEmpty then [compiler] else later })

/-- Starts a session with the next program. -/
def start (bench : Bench) (timeout : Nat) : Option (Except SessionError Unit) × Bench :=
  let (program, bench) := bench.compile
  bench.call timeout (Controller.start bench.rig.device.capabilities program)

/-- Starts a session with the next program and waits for the entry breakpoint. -/
def startDebug (bench : Bench) (timeout : Nat) :
    Option (Except SessionError HaltMessage) × Bench :=
  let (program, bench) := bench.compile
  bench.call timeout (Controller.startDebug bench.rig.device.capabilities program)

/-- Hands an event to the controller; the result says whether it listens for such events. -/
def raise (bench : Bench) (event : Event) : Bool × Bench :=
  (bench.controller.listening && event.code == Opcode.paused, bench.deliver [event])

end Bench

end BoardDebug
