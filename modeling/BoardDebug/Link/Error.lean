import BoardDebug.Bytes
import BoardDebug.Files

namespace BoardDebug

/-- A kind of request, as a failure is set up for it; a command is told apart by its code. -/
inductive RequestKind where
  | talk (opcode : UInt32)
  | readWords
  | writeWords
  | flash
  | queryHalt
deriving DecidableEq, Repr

def RequestKind.describe : RequestKind → String
  | talk opcode => s!"Talk({opcode})"
  | readWords => "ReadWords"
  | writeWords => "WriteWords"
  | flash => "Flash"
  | queryHalt => "QueryHalt"

/-- What goes wrong on the USB bus itself. -/
inductive UsbFault where
  | unavailable
  | opening
  | reading
  | writing
deriving DecidableEq, Repr

def UsbFault.message : UsbFault → String
  | unavailable => "Failed to initialize hidapi"
  | opening => "hidapi error: open failed"
  | reading => "hidapi error: read failed"
  | writing => "hidapi error: write failed"

/-- Why a request to a device fails. -/
inductive LinkError where
  | usb (fault : UsbFault)
  | notFound
  | commandFailed (command : UInt32) (status info : UInt8)
  | timeout (command : UInt32)
  | malformed (what : Malformed)
  | unsupported (feature : String)
  | closed
  | io (fault : FileFault)
  /-- A failure that was set up in a simulated device. -/
  | injected (kind : RequestKind)
  /-- Any other failure, with its causes. -/
  | other (chain : List String)
deriving DecidableEq, Repr

/-- The error and what caused it, outermost first. -/
def LinkError.chain : LinkError → List String
  | usb fault => ["Error in the USB HID access", fault.message]
  | notFound => ["No matching device was found"]
  | commandFailed command status info =>
    ["Device reported status " ++ Text.hex2 status ++ " (info " ++ Text.hex2 info ++
      ") for command " ++ Text.hex8 command]
  | timeout command => ["Timed out waiting for a reply to command " ++ Text.hex8 command]
  | malformed what => ["Malformed reply from device: " ++ what.message]
  | unsupported feature => ["The link does not support " ++ feature]
  | closed => ["The link was closed"]
  | io fault => ["I/O error", fault.message]
  | injected kind => ["injected transport failure at " ++ kind.describe]
  | other chain => chain

/-- A malformed answer as a failure of the link. -/
def LinkError.ofMalformed {α : Type} : Except Malformed α → Except LinkError α
  | .ok a => .ok a
  | .error what => .error (.malformed what)

end BoardDebug
