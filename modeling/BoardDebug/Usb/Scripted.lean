import BoardDebug.Hf2.Packet
import BoardDebug.Usb.Device

namespace BoardDebug

/-- Which tag an answer carries. -/
inductive TagRule where
  | fixed (tag : UInt16)
  /-- The tag of the command and this much more. -/
  | after (delta : UInt16)

/-- Something that a scripted device sends. -/
inductive ScriptItem where
  | reply (rule : TagRule) (status info : UInt8) (payload : Bytes) (chunk : Nat)
  | event (event : Event) (chunk : Nat)
  /-- A report as it is. -/
  | report (bytes : Bytes)
  /-- The connection breaks. -/
  | broken

/-- How a scripted bus reacts to a command. -/
structure ScriptEntry where
  /-- The command that is meant; without one, any. -/
  command : Option UInt32
  /-- How often the entry can still be used. -/
  uses : Nat
  devices : Option (List UsbDevice)
  refusesOpen : Option Bool
  /-- What the next opened device sends at once. -/
  onOpen : List ScriptItem
  failsWrite : Bool
  items : List ScriptItem

/-- A command as a scripted bus records it. -/
structure SentCommand where
  command : UInt32
  tag : UInt16
  payload : Bytes

/-- A bus on which everything happens by a script. -/
structure ScriptedBus where
  devices : List UsbDevice
  isUnavailable : Bool
  refusesOpen : Bool
  onOpen : List ScriptItem
  script : List ScriptEntry
  /-- What can be read. -/
  waiting : List Arrival
  /-- Puts the commands together. -/
  assembler : Hf2.Assembler
  commands : List SentCommand
  /-- The number of reports that were written. -/
  reports : Nat
  /-- The paths of the devices that were opened. -/
  opened : List String

namespace ScriptItem

def messageReports (message : Bytes) (chunk : Nat) : List Arrival :=
  (Hf2.packets (chunks (max chunk 1) message)).map .report

/-- What arrives of an item that is sent after a command with a tag. -/
def arrivals (tag : UInt16) : ScriptItem → List Arrival
  | reply rule status info payload chunk =>
    let tag := match rule with
      | .fixed tag => tag
      | .after delta => tag + delta
    messageReports (halfWordBytes tag ++ [status, info] ++ payload) chunk
  | event e chunk => messageReports (Word.bytes e.code ++ e.payload) chunk
  | report bytes => if bytes.isEmpty then [] else [.report (bytes.take Hf2.reportSize)]
  | broken => [.broken]

end ScriptItem

namespace ScriptedBus

/-- A bus without devices. -/
def empty : ScriptedBus where
  devices := []
  isUnavailable := false
  refusesOpen := false
  onOpen := []
  script := []
  waiting := []
  assembler := .empty
  commands := []
  reports := 0
  opened := []

/-- Lets the device send items after a command with a tag. -/
def send (bus : ScriptedBus) (tag : UInt16) (items : List ScriptItem) : ScriptedBus :=
  { bus with waiting := bus.waiting ++ items.flatMap (·.arrivals tag) }

/-- The first entry that fits a command, and the script with that entry used once more. -/
def useEntry (command : UInt32) : List ScriptEntry → Option (ScriptEntry × List ScriptEntry)
  | [] => none
  | entry :: rest =>
    if entry.uses ≠ 0 ∧ (entry.command = none ∨ entry.command = some command) then
      some (entry, { entry with uses := entry.uses - 1 } :: rest)
    else (useEntry command rest).map fun (found, rest) => (found, entry :: rest)

/-- Reacts to a complete command. -/
def react (bus : ScriptedBus) (sent : SentCommand) : Except UsbFault Unit × ScriptedBus :=
  let bus := { bus with commands := bus.commands ++ [sent] }
  match useEntry sent.command bus.script with
  | none => (.ok (), bus)
  | some (entry, script) =>
    let bus :=
      { bus with
        script
        devices := entry.devices.getD bus.devices
        refusesOpen := entry.refusesOpen.getD bus.refusesOpen
        onOpen := entry.onOpen }
    if entry.failsWrite then (.error .writing, bus) else (.ok (), bus.send sent.tag entry.items)

/-- The command in a message. -/
def readCommand? (message : Bytes) : Option SentCommand :=
  match message with
  | a :: b :: c :: d :: e :: f :: _ :: _ :: payload =>
    some ⟨Word.ofBytes a b c d, Hf2.halfWord e f, payload⟩
  | _ => none

/-- Takes a report in, whose first byte is its number. -/
def write (bus : ScriptedBus) (report : Bytes) : Except UsbFault Unit × ScriptedBus :=
  let bus := { bus with reports := bus.reports + 1 }
  match bus.assembler.push report.tail with
  | .error _ => (.ok (), { bus with assembler := .empty })
  | .ok (some (.message message), assembler) =>
    match readCommand? message with
    | some sent => { bus with assembler }.react sent
    | none => (.ok (), { bus with assembler })
  | .ok (_, assembler) => (.ok (), { bus with assembler })

/-- What is still to be read from an earlier device is lost. -/
def openDevice (bus : ScriptedBus) (device : UsbDevice) : Except UsbFault ScriptedBus :=
  if bus.refusesOpen then .error .opening
  else
    .ok
      ({ bus with opened := bus.opened ++ [device.path], waiting := [], onOpen := [] }.send 0
        bus.onOpen)

instance : UsbBus ScriptedBus where
  devices bus := if bus.isUnavailable then .error .unavailable else .ok bus.devices
  openDevice := openDevice
  write := write
  receive bus := (bus.waiting, { bus with waiting := [] })

end ScriptedBus

end BoardDebug
