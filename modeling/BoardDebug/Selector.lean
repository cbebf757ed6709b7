import BoardDebug.Hf2.Options
import BoardDebug.Text.Number

namespace BoardDebug

/-- Names a device by its ids and, if need be, its serial number. -/
structure Selector where
  vendorId : UInt16
  productId : UInt16
  serialNumber : Option String
deriving DecidableEq

/-- Why a text names no device. -/
inductive SelectorError where
  | format
  | badId (text : String)
deriving DecidableEq

def SelectorError.message : SelectorError → String
  | format =>
    "The format of the selector is invalid. Please use a string in the form " ++
      "`VID:PID:<Serial>`, where Serial is optional."
  | badId text => "Could not parse '" ++ text ++ "' as a hexadecimal USB ID"

namespace Selector

/-- A text without the hexadecimal marks in front of it. -/
def dropMarks : List Char → List Char
  | '0' :: 'x' :: rest => dropMarks rest
  | text => text

def id? (text : List Char) : Except SelectorError UInt16 :=
  match Text.unsigned? 16 0x10000 (dropMarks text) with
  | some n => .ok (.ofNat n)
  | none => .error (.badId (String.ofList text))

/-- What stands before and after the first colon. -/
def cut? (text : List Char) : Option (List Char × List Char) :=
  match text.span (· ≠ ':') with
  | (before, _ :: after) => some (before, after)
  | (_, []) => none

/-- Reads a vendor id, a product id and a serial number between colons. The serial number may hold
colons itself, or be missing. -/
def ofText (text : String) : Except SelectorError Selector :=
  match cut? text.toList with
  | none => .error .format
  | some (vendor, rest) => do
    let (product, serial) := (cut? rest).getD (rest, [])
    let vendorId ← id? vendor
    let productId ← id? product
    let serialNumber := if serial.isEmpty then none else some (String.ofList serial)
    return { vendorId, productId, serialNumber }

/-- Options that mean the selected device and are otherwise unchanged. -/
def apply (s : Selector) (options : Hf2.Options) : Hf2.Options :=
  { options with
    vendorId := some s.vendorId
    productId := some s.productId
    serialNumber := s.serialNumber }

end Selector

end BoardDebug
