import BoardDebug.Hf2.Dialogue
import BoardDebug.Hf2.Options
import BoardDebug.Hf2.Packet
import BoardDebug.Usb.Device

namespace BoardDebug.Hf2

/-- A command that waits for its answer. -/
structure Pending where
  tag : UInt16
  command : UInt32
deriving DecidableEq

/-- What has come of the one command at a time that may be under way. -/
inductive Slot where
  | free
  | waiting (pending : Pending)
  | answered (result : Except LinkError Bytes)

/-- The reading side of a connection. -/
structure Exchange where
  assembler : Assembler
  slot : Slot

namespace Exchange

def idle : Exchange := ⟨.empty, .free⟩

/-- Expects an answer with a tag. -/
def expect (e : Exchange) (tag : UInt16) (command : UInt32) : Exchange :=
  { e with slot := .waiting ⟨tag, command⟩ }

/-- Expects nothing any more. -/
def release (e : Exchange) : Exchange :=
  { e with slot := .free }

/-- What an answer with a status comes to. -/
def outcome (command : UInt32) (status info : UInt8) (payload : Bytes) : Except LinkError Bytes :=
  if status = 0 then .ok payload else .error (.commandFailed command status info)

/-- Gives an answer to the command that waits for it. One with another tag is dropped. -/
def settle (slot : Slot) (tag : UInt16) (status info : UInt8) (payload : Bytes) : Slot :=
  match slot with
  | .waiting p => if p.tag = tag then .answered (outcome p.command status info payload) else slot
  | _ => slot

/-- Takes a message in. One that cannot be read is dropped. -/
def dispatch (e : Exchange) (message : Bytes) : Exchange × List Event :=
  match Answer.ofBytes message with
  | .ok (.response tag status info payload) =>
    ({ e with slot := settle e.slot tag status info payload }, [])
  | .ok (.event event) => (e, [event])
  | .error _ => (e, [])

/-- Takes a report in. A malformed one costs the parts collected so far; console output is not
looked at. -/
def feed (e : Exchange) (report : Bytes) : Exchange × List Event :=
  match e.assembler.push report with
  | .error _ => ({ e with assembler := .empty }, [])
  | .ok (some (.message message), assembler) => { e with assembler }.dispatch message
  | .ok (_, assembler) => ({ e with assembler }, [])

/-- Takes reports in, one after the other. -/
def feedAll (e : Exchange) : List Bytes → Exchange × List Event
  | [] => (e, [])
  | report :: rest =>
    let (e, first) := e.feed report
    let (e, others) := e.feedAll rest
    (e, first ++ others)

/-- The connection broke. -/
def breakOff (e : Exchange) (error : LinkError) : Exchange where
  assembler := .empty
  slot :=
    match e.slot with
    | .waiting _ => .answered (.error error)
    | slot => slot

end Exchange

end BoardDebug.Hf2

namespace BoardDebug

namespace Hf2

variable {β : Type} [UsbBus β]

def ofUsb {α : Type} : Except UsbFault α → Except LinkError α
  | .ok a => .ok a
  | .error fault => .error (.usb fault)

/-- The devices on a bus that speak HF2. -/
def listDevices (bus : β) : Except LinkError (List UsbDevice) := do
  let devices ← ofUsb (UsbBus.devices bus)
  return devices.filter (·.usagePage == usagePage)

/-- Opens the first device that is meant. -/
def openDevice (options : Options) (bus : β) : Except LinkError β := do
  let devices ← ofUsb (UsbBus.devices bus)
  match devices.find? options.admits with
  | none => .error .notFound
  | some device => ofUsb (UsbBus.openDevice bus device)

end Hf2

/-- A connection to a device that speaks HF2. -/
structure Hf2Link (β : Type) where
  options : Hf2.Options
  bus : β
  isOpen : Bool
  nextTag : UInt16
  exchange : Hf2.Exchange
  /-- The events that have arrived and are not yet handed on. -/
  events : List Event

namespace Hf2Link

open Hf2

variable {β : Type} [UsbBus β]

/-- Takes in what has arrived. Nothing can arrive after the connection broke. -/
def take (link : Hf2Link β) : List Arrival → Hf2Link β
  | [] => link
  | .broken :: _ =>
    { link with isOpen := false, exchange := link.exchange.breakOff (.usb .reading) }
  | .report bytes :: rest =>
    let (exchange, events) := link.exchange.feed bytes
    { link with exchange, events := link.events ++ events }.take rest

/-- Takes in all that the device has sent. -/
def listen (link : Hf2Link β) : Hf2Link β :=
  if link.isOpen then
    let (arrivals, bus) := UsbBus.receive link.bus
    { link with bus }.take arrivals
  else link

/-- Opens a device. Events that it sends at once reach nobody. -/
def connect (options : Options) (bus : β) : Except LinkError (Hf2Link β) :=
  (openDevice options bus).map fun bus =>
    { (listen ⟨options, bus, true, 1, .idle, []⟩) with events := [] }

/-- A tag for the next command; the top bit is for events. -/
def takeTag (link : Hf2Link β) : UInt16 × Hf2Link β :=
  (link.nextTag &&& 0x7fff, { link with nextTag := link.nextTag + 1 })

def writeReports (bus : β) : List Bytes → Except UsbFault Unit × β
  | [] => (.ok (), bus)
  | report :: rest =>
    match UsbBus.write bus report with
    | (.ok (), bus) => writeReports bus rest
    | (.error fault, bus) => (.error fault, bus)

def send (link : Hf2Link β) (message : Bytes) : Except LinkError Unit × Hf2Link β :=
  if link.isOpen then
    let (sent, bus) := writeReports link.bus (outputReports message)
    (ofUsb sent, { link with bus })
  else (.error .closed, link)

/-- What has become of the command under way, once nothing more arrives in time. -/
def conclude (link : Hf2Link β) (command : UInt32) : Except LinkError Bytes × Hf2Link β :=
  match link.exchange.slot with
  | .answered result => (result, { link with exchange := link.exchange.release })
  | _ => (.error (.timeout command), { link with exchange := link.exchange.release })

/-- Sends a command and waits for its answer. -/
def ask (link : Hf2Link β) (command : UInt32) (payload : Bytes) :
    Except LinkError Bytes × Hf2Link β :=
  let (tag, link) := link.takeTag
  match { link with exchange := link.exchange.expect tag command }.send
      (commandMessage command tag payload) with
  | (.ok (), link) => link.listen.conclude command
  | (.error error, link) => (.error error, { link with exchange := link.exchange.release })

/-- Sends a command that has no answer. -/
def tell (link : Hf2Link β) (command : UInt32) : Except LinkError Unit × Hf2Link β :=
  let (tag, link) := link.takeTag
  link.send (commandMessage command tag [])

/-- How often the bus is searched for a device that is to come back, in milliseconds. -/
def searchInterval : Nat := 100

/-- Closes the device and opens it again. A bus that has no fitting device after one interval has
none later. -/
def reopen (link : Hf2Link β) : Except LinkError Unit × Hf2Link β :=
  let closed := { link with isOpen := false }
  if link.options.reconnectTimeout ≤ searchInterval then (.error .notFound, closed)
  else
    match openDevice link.options.afterReset link.bus with
    | .ok bus => (.ok (), { closed with bus, isOpen := true })
    | .error _ => (.error .notFound, closed)

instance : Channel (Hf2Link β) where
  ask := ask
  tell := tell
  reopen := reopen

/-- Hands on the events that have arrived. -/
def takeEvents (link : Hf2Link β) : List Event × Hf2Link β :=
  (link.events, { link with events := [] })

def serve (link : Hf2Link β) (request : Request) : Served (Hf2Link β) request :=
  let (answer, link) := (Dialogue.ofRequest request).run link
  let (events, link) := link.listen.takeEvents
  ⟨answer, link, events⟩

instance : Link (Hf2Link β) where
  capabilities _ := ⟨true, false⟩
  serve := serve

/-- The link in one line. -/
def describe (link : Hf2Link β) : String :=
  "Hf2Link \x7b options: " ++ link.options.describe ++ ", connected: " ++
    Text.showBool link.isOpen ++ ", .. \x7d"

end Hf2Link

end BoardDebug
