import BoardDebug.Image
import BoardDebug.Link.Error

namespace BoardDebug

/-- What a link can do besides answering requests. -/
structure Capabilities where
  /-- It delivers what the device sends on its own. -/
  events : Bool
  /-- It can be asked whether the device is halted. -/
  statusQuery : Bool
deriving DecidableEq, Repr

/-- What can be asked of a link. -/
inductive Request where
  | talk (opcode : UInt32) (payload : Bytes)
  | readWords (address count : UInt32)
  | writeWords (address : UInt32) (words : List UInt32)
  | flash (image : Image)
  | queryHalt
deriving DecidableEq

/-- What a request is answered with. -/
abbrev Request.Reply : Request → Type
  | talk _ _ => Bytes
  | readWords _ _ => List UInt32
  | writeWords _ _ => Unit
  | flash _ => Unit
  | queryHalt => Option UInt32

def Request.kind : Request → RequestKind
  | talk opcode _ => .talk opcode
  | readWords _ _ => .readWords
  | writeWords _ _ => .writeWords
  | flash _ => .flash
  | queryHalt => .queryHalt

/-- Something that a device sends on its own. -/
structure Event where
  code : UInt32
  payload : Bytes
deriving DecidableEq, Repr

/-- What comes of a request: its answer, the link afterwards, and the events that arrived. -/
structure Served (δ : Type) (request : Request) where
  answer : Except LinkError request.Reply
  link : δ
  events : List Event

/-- A connection to a device. -/
class Link (δ : Type) where
  capabilities : δ → Capabilities
  serve : δ → (request : Request) → Served δ request

namespace Opcode

/-- Asks for the number and the place of the globals. -/
def getGlobals : UInt32 := 0x53fc66e0

/-- Lets the program go on. -/
def resume : UInt32 := 0x27a55931

/-- Arms the addresses in the payload instead of those armed before. -/
def setBreakpoints : UInt32 := 0x6f6a1e17

/-- Is sent by the device when it halts; the payload starts with the place. -/
def paused : UInt32 := 0x3692f9fd

end Opcode

/-- The request that arms addresses. -/
def Request.setBreakpoints (addresses : List UInt32) : Request :=
  .talk Opcode.setBreakpoints (wordBytes addresses)

def Request.resume : Request :=
  .talk Opcode.resume []

/-- How the program runs: the value of its status cell. -/
inductive DebugStatus where
  /-- Freely. -/
  | disabled
  /-- Up to an armed breakpoint. -/
  | breakpoints
  /-- For one step. -/
  | singleStep
deriving DecidableEq, Repr

namespace DebugStatus

def word : DebugStatus → UInt32
  | disabled => 0
  | breakpoints => 1
  | singleStep => 3

def ofWord? (word : UInt32) : Option DebugStatus :=
  if word = 0 then some disabled
  else if word = 1 then some breakpoints
  else if word = 3 then some singleStep
  else none

def describe : DebugStatus → String
  | disabled => "Disabled"
  | breakpoints => "Breakpoints"
  | singleStep => "SingleStep"

end DebugStatus

/-- The place at which a device says that it halted. -/
def haltPlace (payload : Bytes) : Except Malformed UInt32 :=
  wordAt payload 0

/-- Handlers by event code; a new one replaces the one before it. -/
abbrev Handlers (η : Type) := List (UInt32 × η)

namespace Handlers

variable {η : Type}

def register (handlers : Handlers η) (code : UInt32) (handler : η) : Handlers η :=
  (code, handler) :: handlers.filter (·.1 != code)

/-- The handlers that events reach, with what they are given. -/
def deliver (handlers : Handlers η) (events : List Event) : List (η × Bytes) :=
  events.filterMap fun event => (handlers.lookup event.code).map fun h => (h, event.payload)

end Handlers

/-- A link that is connected on first use and then kept. -/
structure LazyLink (δ : Type) where
  link : Option δ

namespace LazyLink

variable {δ σ : Type}

def new : LazyLink δ := ⟨none⟩

/-- The link that is kept; `connect` runs only if there is none. A failure is not kept. -/
def getOrConnect (connect : StateM σ (Except LinkError δ)) (lazy : LazyLink δ) :
    StateM σ (Except LinkError δ × LazyLink δ) := do
  match lazy.link with
  | some link => return (.ok link, lazy)
  | none =>
    match ← connect with
    | .ok link => return (.ok link, ⟨some link⟩)
    | .error error => return (.error error, lazy)

/-- Calls that are made at once: each one waits for those before it. -/
def getOrConnectAll (lazy : LazyLink δ) :
    List (StateM σ (Except LinkError δ)) → StateM σ (List (Except LinkError δ) × LazyLink δ)
  | [] => return ([], lazy)
  | connect :: rest => do
    let (result, lazy) ← lazy.getOrConnect connect
    let (results, lazy) ← lazy.getOrConnectAll rest
    return (result :: results, lazy)

end LazyLink

end BoardDebug
