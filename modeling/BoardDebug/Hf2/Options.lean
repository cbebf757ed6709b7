import BoardDebug.Json.Decoder
import BoardDebug.Text.Quoted
import BoardDebug.Text.Show
import BoardDebug.Usb.Device

namespace BoardDebug.Hf2

/-- The usage page of devices that speak HF2. -/
def usagePage : UInt16 := 0xff97

/-- Which device to open, and how long to wait for it, in milliseconds. -/
structure Options where
  vendorId : Option UInt16
  productId : Option UInt16
  serialNumber : Option String
  /-- The time for an answer. -/
  requestTimeout : Nat
  /-- The time in which a device has to come back after a reset. -/
  reconnectTimeout : Nat
deriving DecidableEq

namespace Options

def standard : Options where
  vendorId := none
  productId := none
  serialNumber := none
  requestTimeout := 2000
  reconnectTimeout := 10000

/-- Whether an optional wish is met. -/
def meets {α : Type} [DecidableEq α] (wish : Option α) (actual : Option α) : Bool :=
  wish.isNone || wish == actual

/-- Whether a device is meant. The usage page counts only if no id is given. -/
def admits (o : Options) (d : UsbDevice) : Bool :=
  meets o.vendorId (some d.vendorId) && meets o.productId (some d.productId) &&
    (o.vendorId.isSome || o.productId.isSome || d.usagePage == usagePage) &&
    meets o.serialNumber d.serialNumber

/-- Which device to look for after a reset: one may come back with other ids, but its serial number
stays. -/
def afterReset (o : Options) : Options :=
  match o.serialNumber with
  | some _ => { o with vendorId := none, productId := none }
  | none => o

structure Draft where
  vendorId : Option (Option UInt16) := none
  productId : Option (Option UInt16) := none
  serialNumber : Option (Option String) := none
  requestTimeout : Option Nat := none
  reconnectTimeout : Option Nat := none

def record : Json.Record Draft Options where
  fields :=
    [.defaulted "vendor_id" Draft.vendorId (fun v d => { d with vendorId := some v })
        (.optional Json.Decoder.halfWord),
      .defaulted "product_id" Draft.productId (fun v d => { d with productId := some v })
        (.optional Json.Decoder.halfWord),
      .defaulted "serial_number" Draft.serialNumber (fun v d => { d with serialNumber := some v })
        (.optional Json.Decoder.string),
      .defaulted "request_timeout" Draft.requestTimeout (fun v d => { d with requestTimeout := v })
        (.natural 0xffffffffffffffff),
      .defaulted "reconnect_timeout" Draft.reconnectTimeout
        (fun v d => { d with reconnectTimeout := v }) (.natural 0xffffffffffffffff)]
  unknown := .refused
  blank := {}
  finish d := some
    { vendorId := d.vendorId.getD standard.vendorId
      productId := d.productId.getD standard.productId
      serialNumber := d.serialNumber.getD standard.serialNumber
      requestTimeout := d.requestTimeout.getD standard.requestTimeout
      reconnectTimeout := d.reconnectTimeout.getD standard.reconnectTimeout }

def ofJson (bytes : Bytes) : Except Json.Fault Options :=
  record.decoder.run bytes

def toJson (o : Options) : Json.Value :=
  .object
    [("vendor_id", Json.ofOption (fun id => .natural id.toNat) o.vendorId),
      ("product_id", Json.ofOption (fun id => .natural id.toNat) o.productId),
      ("serial_number", Json.ofOption .text o.serialNumber),
      ("request_timeout", .natural o.requestTimeout),
      ("reconnect_timeout", .natural o.reconnectTimeout)]

def describe (o : Options) : String :=
  let id (id : Option UInt16) := Text.showOption (fun n => s!"{n}") id
  "Hf2Options \x7b vendor_id: " ++ id o.vendorId ++ ", product_id: " ++ id o.productId ++
    ", serial_number: " ++ Text.showOption Text.quoted o.serialNumber ++ ", request_timeout: " ++
    Text.showDuration o.requestTimeout ++ ", reconnect_timeout: " ++
    Text.showDuration o.reconnectTimeout ++ " \x7d"

end Options

end BoardDebug.Hf2
