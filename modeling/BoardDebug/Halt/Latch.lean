import BoardDebug.Link
import BoardDebug.Text.Show

namespace BoardDebug

/-- How a wait for a halt ends. -/
inductive HaltOutcome where
  | halted (pc : UInt32)
  | failed (error : LinkError)
  /-- A newer wait took its place, or it was called off. -/
  | superseded
deriving DecidableEq

/-- Where a wait stands. -/
inductive WaitState where
  | pending
  /-- Its outcome is there but has not been taken. -/
  | ready (outcome : HaltOutcome)
  /-- It was dropped, or its outcome has been taken. -/
  | gone
deriving DecidableEq

/-- The wait that a latch is armed for. -/
structure Armed where
  wait : Nat
  /-- Whether the device runs. Before that, a halted device is still halted from the last time. -/
  running : Bool
deriving DecidableEq

/-- A signal that fires once each time it is armed. Waits are numbered in the order in which they
were handed out. -/
structure Latch where
  armed : Option Armed
  waits : List WaitState
deriving DecidableEq

namespace Latch

def new : Latch := ⟨none, []⟩

def state (latch : Latch) (wait : Nat) : WaitState :=
  latch.waits.getD wait .gone

/-- Ends a wait, if it is still pending. -/
def settle (waits : List WaitState) (wait : Nat) (outcome : HaltOutcome) : List WaitState :=
  if waits[wait]? = some .pending then waits.set wait (.ready outcome) else waits

/-- Calls off the wait that the latch is armed for. -/
def disarm (latch : Latch) : Latch :=
  match latch.armed with
  | some a => ⟨none, settle latch.waits a.wait .superseded⟩
  | none => latch

/-- Arms the latch and hands out a new wait; the earlier one is called off. -/
def arm (latch : Latch) : Nat × Latch :=
  let waits := latch.disarm.waits
  (waits.length, ⟨some ⟨waits.length, false⟩, waits ++ [.pending]⟩)

/-- Notes that the device runs. -/
def setRunning (latch : Latch) : Latch :=
  { latch with armed := latch.armed.map fun a => { a with running := true } }

def isArmed (latch : Latch) : Bool :=
  latch.armed.isSome

/-- Whether somebody waits for a running device. -/
def isWaiting (latch : Latch) : Bool :=
  match latch.armed with
  | some a => a.running && latch.state a.wait == .pending
  | none => false

/-- Fires the latch. The result says whether somebody was still waiting. -/
def complete (latch : Latch) (outcome : HaltOutcome) : Bool × Latch :=
  match latch.armed with
  | none => (false, latch)
  | some a => (latch.state a.wait == .pending, ⟨none, settle latch.waits a.wait outcome⟩)

def fulfill (latch : Latch) (pc : UInt32) : Bool × Latch :=
  latch.complete (.halted pc)

def fail (latch : Latch) (error : LinkError) : Bool × Latch :=
  latch.complete (.failed error)

/-- Gives up a wait. The latch stays armed. -/
def drop (latch : Latch) (wait : Nat) : Latch :=
  { latch with waits := latch.waits.set wait .gone }

/-- Takes the outcome of a wait if it is there. -/
def poll (latch : Latch) (wait : Nat) : WaitState × Latch :=
  match latch.state wait with
  | .ready outcome => (.ready outcome, latch.drop wait)
  | other => (other, latch)

def describe (latch : Latch) : String :=
  let running := match latch.armed with
    | some a => a.running
    | none => false
  "HaltLatch \x7b armed: " ++ Text.showBool latch.isArmed ++ ", running: " ++
    Text.showBool running ++ " \x7d"

end Latch

end BoardDebug
