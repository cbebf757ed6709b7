import BoardDebug.Json.Value
import BoardDebug.Link.Error

namespace BoardDebug

/-- What a bus tells about a device. -/
structure UsbDevice where
  vendorId : UInt16
  productId : UInt16
  usagePage : UInt16
  serialNumber : Option String
  product : Option String
  path : String
deriving DecidableEq

namespace UsbDevice

/-- The ids and the serial number in the form in which a device is asked for. -/
def selector (d : UsbDevice) : String :=
  Text.hex 4 d.vendorId.toNat ++ ":" ++ Text.hex 4 d.productId.toNat ++ ":" ++
    d.serialNumber.getD ""

/-- The device in one line. -/
def line (d : UsbDevice) : String :=
  d.product.getD "<unknown>" ++ " -- " ++ d.selector ++ " (" ++ d.path ++ ")"

def toJson (d : UsbDevice) : Json.Value :=
  .object
    [("vendor_id", .natural d.vendorId.toNat), ("product_id", .natural d.productId.toNat),
      ("serial_number", Json.ofOption .text d.serialNumber),
      ("product", Json.ofOption .text d.product), ("path", .text d.path)]

end UsbDevice

/-- What comes from an open device: reports, and the end of the connection. -/
inductive Arrival where
  | report (bytes : Bytes)
  | broken
deriving DecidableEq

/-- A bus with devices, one of which can be open. -/
class UsbBus (β : Type) where
  devices : β → Except UsbFault (List UsbDevice)
  openDevice : β → UsbDevice → Except UsbFault β
  /-- Writes a report to the open device. -/
  write : β → Bytes → Except UsbFault Unit × β
  /-- Takes all that has arrived from the open device. -/
  receive : β → List Arrival × β

end BoardDebug
