import BoardDebug.Breakpoint
import BoardDebug.Editor
import BoardDebug.Halt.Observer
import BoardDebug.Session.Snapshot

namespace BoardDebug

/-- A program being debugged on a device. -/
structure Session where
  phase : Phase
  program : Program
  index : ProcedureIndex
  table : BreakpointTable
  /-- The breakpoint that explains the last halt. -/
  current : Option Breakpoint
  /-- The addresses armed for the current run. -/
  pending : List UInt32
  /-- The globals area, once the device has been asked for it. -/
  area : Option GlobalsArea
  /-- The status that was written last. -/
  status : Option DebugStatus
  /-- Whether a halt has been dealt with. -/
  hasHalted : Bool
  latch : Latch
  wait : Option Nat
  observer : Option Observer

namespace Session

def new (program : Program) (table : BreakpointTable) (observer : Observer) : Session where
  phase := .starting
  program
  index := .ofList program.procedures
  table
  current := none
  pending := []
  area := none
  status := none
  hasHalted := false
  latch := .new
  wait := none
  observer := some observer

/-- Gives up the wait, if there is one. -/
def dropWait (s : Session) : Session :=
  match s.wait with
  | some wait => { s with wait := none, latch := s.latch.drop wait }
  | none => s

/-- Arms the latch for a new wait. -/
def arm (s : Session) : Session :=
  let (wait, latch) := s.latch.arm
  { ({ s with latch } : Session).dropWait with wait := some wait }

def setRunning (s : Session) : Session :=
  { s with latch := s.latch.setRunning }

/-- The outcome of the wait, if it is there. -/
def outcome? (s : Session) : Option HaltOutcome :=
  match s.wait with
  | none => some .superseded
  | some wait =>
    match s.latch.state wait with
    | .pending => none
    | .ready outcome => some outcome
    | .gone => some .superseded

/-- Passes a halt on to the wait. -/
def fulfill (s : Session) (pc : UInt32) : Session :=
  { s with latch := (s.latch.fulfill pc).2 }

/-- The place that counts for a halt at `pc`: a halt on a landing pad belongs to the start of the
procedure's body. -/
def place (s : Session) (pc : UInt32) : UInt32 :=
  ((s.index.landingAt? pc).bind (·.bodyStart)).getD pc

def terminate (s : Session) : Session :=
  let s := s.dropWait
  { s with phase := .terminated, latch := s.latch.disarm, observer := none }

def expectPhase (expected : Phase) : Routine Session Unit := do
  let s ← get
  if s.phase = expected then return ()
  else Routine.fail (.wrongPhase expected s.phase)

/-- The globals area; the device is asked for it once. -/
def fetchArea : Routine Session GlobalsArea := do
  match (← get).area with
  | some area => return area
  | none =>
    let area ← GlobalsArea.fetch
    modify fun s => { s with area := some area }
    return area

/-- Writes the status cell, unless it already holds the status. The result says whether it was
written. -/
def writeStatus (status : DebugStatus) : Routine Session Bool := do
  if (← get).status = some status then return false
  else
    let area ← fetchArea
    Routine.ask (.writeWords area.address [status.word])
    modify fun s => { s with status := some status }
    return true

/-- Arms the entry breakpoint and starts the device with the program. -/
def flashAndArm : Routine Session Unit := do
  match (← get).table.entry? with
  | none => Routine.fail .noEntryBreakpoint
  | some entry =>
    modify fun s => { s with pending := [entry.address] }
    let _ ← Routine.ask (.setBreakpoints [entry.address])
    modify fun s => { s.arm with phase := .flashing }
    Routine.ask (.flash (← get).program.image)
    modify fun s => { s.setRunning with phase := .armed }

/-- Describes a halt at `pc`. A program that has just been started has to be told to heed
breakpoints. -/
def halted (pc : UInt32) : Routine Session HaltMessage := do
  let area ← fetchArea
  let s ← get
  let place := s.place pc
  let snapshot ← Snapshot.take area s.index (some place)
  let breakpoint := s.table.resolve place
  modify fun s => { s with pending := [], current := some breakpoint }
  if !s.hasHalted then
    let _ ← writeStatus .breakpoints
  modify fun s => { s with hasHalted := true, phase := .paused }
  return .new breakpoint.id snapshot.globals

/-- Waits for a halt. The wait stays in place until it is over, so that a call that was given up
can be made again. -/
def waitForHalt : Routine Session HaltMessage := do
  expectPhase .armed
  let outcome ← Routine.await outcome?
  modify dropWait
  match outcome with
  | .halted pc => halted pc
  | .failed error => Routine.fail (.link error)
  | .superseded => Routine.fail .superseded

/-- Goes on to the successors of the current breakpoint, or by a single step. -/
def step (into : Bool) : Routine Session Unit := do
  expectPhase .paused
  let s ← get
  match s.current with
  | none => Routine.fail (.wrongPhase .paused s.phase)
  | some current =>
    let successors := s.table.successorAddresses current
    modify fun s => { s with phase := .resuming, pending := successors }
    let _ ← Routine.ask (.setBreakpoints successors)
    let _ ← writeStatus (if into then .singleStep else .breakpoints)
    modify arm
    let _ ← Routine.ask .resume
    modify fun s => { s.setRunning with phase := .armed }

end Session

end BoardDebug
