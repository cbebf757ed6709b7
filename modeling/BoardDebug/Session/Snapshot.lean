import BoardDebug.Globals
import BoardDebug.Session.Call

namespace BoardDebug

/-- Where a program keeps its globals. -/
structure GlobalsArea where
  /-- The number of words, with the status cell. -/
  count : UInt32
  /-- The address of the status cell, which is the first word. -/
  address : UInt32
deriving DecidableEq, Repr

namespace GlobalsArea

def ofReply (reply : Bytes) : Except Malformed GlobalsArea := do
  let count ← wordAt reply 0
  let address ← wordAt reply 1
  return { count, address }

/-- Asks the device for its globals area. -/
def fetch {σ : Type} : Routine σ GlobalsArea := do
  let reply ← Routine.ask (.talk Opcode.getGlobals [])
  match ofReply reply with
  | .ok area => return area
  | .error what => Routine.fail (.link (.malformed what))

end GlobalsArea

/-- The globals of a halted program. -/
structure Snapshot where
  pc : Option UInt32
  globals : Globals

namespace Snapshot

/-- Reads and names the globals. -/
def take {σ : Type} (area : GlobalsArea) (index : ProcedureIndex) (pc : Option UInt32) :
    Routine σ Snapshot := do
  let words ← Routine.ask (.readWords area.address area.count)
  if words.length = area.count.toNat then return { pc, globals := .ofArea words index }
  else Routine.fail (.link (.malformed (.globalCount area.count words.length)))

def toJson (s : Snapshot) : Json.Value :=
  .object [("pc", Json.ofOption Json.ofWord s.pc), ("globals", s.globals.toJson)]

end Snapshot

end BoardDebug
