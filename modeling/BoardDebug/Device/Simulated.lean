import BoardDebug.Link
import BoardDebug.Text.Show

namespace BoardDebug

/-- A word memory. -/
structure Memory where
  read : UInt32 → UInt32

namespace Memory

/-- Memory in which every word is zero. -/
def zero : Memory := ⟨fun _ => 0⟩

def write (memory : Memory) (address word : UInt32) : Memory :=
  ⟨fun a => if a = address then word else memory.read a⟩

@[simp] theorem read_zero (a : UInt32) : zero.read a = 0 := rfl

theorem read_write (memory : Memory) (address word a : UInt32) :
    (memory.write address word).read a = if a = address then word else memory.read a := rfl

/-- The `count` words from `address` on. -/
def readWords (memory : Memory) (address : UInt32) (count : Nat) : List UInt32 :=
  (List.range count).map fun i => memory.read (address + .ofNat (4 * i))

/-- Writes words one behind the other from `address` on. -/
def writeWords (memory : Memory) (address : UInt32) : List UInt32 → Memory
  | [] => memory
  | word :: words => (memory.write address word).writeWords (address + 4) words

end Memory

/-- A request as a simulated device records it. -/
inductive Operation where
  | talk (opcode : UInt32) (payload : Bytes)
  | readWords (address count : UInt32)
  | writeWords (address : UInt32) (words : List UInt32)
  | flash (blocks : Nat)
  | queryHalt
deriving DecidableEq, Repr

def Operation.ofRequest : Request → Operation
  | .talk opcode payload => .talk opcode payload
  | .readWords address count => .readWords address count
  | .writeWords address words => .writeWords address words
  | .flash image => .flash image.blocks.length
  | .queryHalt => .queryHalt

/-- A device in memory. It halts where it is told to whenever it is flashed or resumed. -/
structure SimulatedDevice where
  capabilities : Capabilities
  memory : Memory
  /-- The number of words in the globals area, with the status cell. -/
  globalCount : UInt32
  /-- The address of the status cell, which the globals follow. -/
  globalsAddress : UInt32
  armed : List UInt32
  haltedAt : Option UInt32
  /-- The places of the halts to come. -/
  halts : List UInt32
  /-- All requests so far. -/
  log : List Operation
  /-- The failures that are still to happen. -/
  failures : List RequestKind
  flashed : Option Image

namespace SimulatedDevice

def new (capabilities : Capabilities) : SimulatedDevice where
  capabilities
  memory := .zero
  globalCount := 1
  globalsAddress := 0x20000000
  armed := []
  haltedAt := none
  halts := []
  log := []
  failures := []
  flashed := none

/-- Puts the status cell and then the given words at `address`. -/
def withGlobals (d : SimulatedDevice) (address : UInt32) (words : List UInt32) :
    SimulatedDevice :=
  { d with
    globalsAddress := address
    globalCount := .ofNat words.length + 1
    memory := d.memory.writeWords address (DebugStatus.disabled.word :: words) }

/-- What the status cell holds. -/
def status (d : SimulatedDevice) : UInt32 :=
  d.memory.read d.globalsAddress

/-- The event by which a device tells that it halted, if it tells. -/
def pausedEvents (d : SimulatedDevice) (pc : Option UInt32) : List Event :=
  match pc with
  | some pc => if d.capabilities.events then [⟨Opcode.paused, wordBytes [pc]⟩] else []
  | none => []

/-- Makes the device stop at `pc` the next time it runs. -/
def queueHalt (d : SimulatedDevice) (pc : UInt32) : SimulatedDevice :=
  { d with halts := d.halts ++ [pc] }

/-- Stops the device. -/
def haltNow (d : SimulatedDevice) (pc : UInt32) : SimulatedDevice × List Event :=
  ({ d with haltedAt := some pc }, d.pausedEvents (some pc))

/-- Makes the next request of a kind fail. -/
def inject (d : SimulatedDevice) (kind : RequestKind) : SimulatedDevice :=
  { d with failures := d.failures ++ [kind] }

/-- Runs up to the next halt. -/
def run (d : SimulatedDevice) : SimulatedDevice :=
  { d with haltedAt := d.halts.head?, halts := d.halts.tail }

/-- Answers a request that does not fail by itself. -/
def answer (d : SimulatedDevice) : (request : Request) → Served SimulatedDevice request
  | .talk opcode payload =>
    if opcode = Opcode.getGlobals then
      ⟨.ok (wordBytes [d.globalCount, d.globalsAddress]), d, []⟩
    else if opcode = Opcode.setBreakpoints then
      match BoardDebug.readWords payload with
      | .ok addresses => ⟨.ok [], { d with armed := addresses }, []⟩
      | .error what => ⟨.error (.malformed what), d, []⟩
    else if opcode = Opcode.resume then ⟨.ok [], d.run, d.run.pausedEvents d.run.haltedAt⟩
    else ⟨.error (.commandFailed opcode 1 0), d, []⟩
  | .readWords address count => ⟨.ok (d.memory.readWords address count.toNat), d, []⟩
  | .writeWords address words =>
    ⟨.ok (), { d with memory := d.memory.writeWords address words }, []⟩
  | .flash image =>
    let reset := d.memory.write d.globalsAddress DebugStatus.disabled.word
    let booted := { d with flashed := some image, memory := reset }.run
    ⟨.ok (), booted, booted.pausedEvents booted.haltedAt⟩
  | .queryHalt => ⟨.ok d.haltedAt, d, []⟩

/-- Whether a request is turned down before it reaches the device. -/
def refuses (d : SimulatedDevice) (request : Request) : Bool :=
  decide (request = .queryHalt) && !d.capabilities.statusQuery

/-- Serves a request: it is recorded, then a failure that was set up for it happens, and only then
does it have an effect. -/
def serve (d : SimulatedDevice) (request : Request) : Served SimulatedDevice request :=
  if d.refuses request then ⟨.error (.unsupported "halt status queries"), d, []⟩
  else
    let d := { d with log := d.log ++ [Operation.ofRequest request] }
    if request.kind ∈ d.failures then
      ⟨.error (.injected request.kind), { d with failures := d.failures.erase request.kind }, []⟩
    else d.answer request

instance : Link SimulatedDevice where
  capabilities := SimulatedDevice.capabilities
  serve := serve

/-- The device in one line. -/
def describe (d : SimulatedDevice) : String :=
  "FakeLink \x7b capabilities: LinkCapabilities \x7b events: " ++
    Text.showBool d.capabilities.events ++ ", status_query: " ++
    Text.showBool d.capabilities.statusQuery ++ " \x7d, halted_pc: " ++
    Text.showOption (fun pc => s!"{pc}") d.haltedAt ++ ", armed: " ++ Text.showWords d.armed ++
    ", .. \x7d"

end SimulatedDevice

end BoardDebug
