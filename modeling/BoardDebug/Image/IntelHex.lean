import BoardDebug.Image

namespace BoardDebug.IntelHex

/-- What a line of an Intel HEX file says. -/
inductive Record where
  | data (offset : Nat) (bytes : Bytes)
  | endOfFile
  /-- What follows is counted from 16 times this number. -/
  | segment (base : Nat)
  | startSegment
  /-- What follows is counted from 65536 times this number. -/
  | linear (base : Nat)
  | startLinear

/-- Why a line is no record. -/
inductive Fault where
  | noColon
  | notHexadecimal
  | tooShort
  | tooLong
  | halfByte
  | checksum (computed found : UInt8)
  | wrongLength
  | wrongLengthForType
  | unknownType (type : UInt8)
deriving DecidableEq, Repr

def Fault.message : Fault → String
  | noColon => "missing start code ':'"
  | notHexadecimal => "invalid characters encountered in record"
  | tooShort => "too short"
  | tooLong => "too long"
  | halfByte => "record does not contain a whole number of bytes"
  | checksum computed found =>
    s!"invalid checksum '{Text.capitalHex2 computed}', expecting '{Text.capitalHex2 found}'"
  | wrongLength => "payload length does not match record header"
  | wrongLengthForType => "payload length invalid for record type"
  | unknownType type => s!"unsupported IHEX record type '{Text.capitalHex2 type}'"

/-- The bytes that pairs of digits spell; a digit left over at the end is not looked at. -/
def pairBytes : List Nat → Bytes
  | high :: low :: rest => .ofNat (high * 16 + low) :: pairBytes rest
  | _ => []

/-- What the sum of all bytes of a record has to be completed with to give zero. -/
def checksum (bytes : Bytes) : UInt8 :=
  0 - bytes.foldl (· + ·) 0

/-- The record with this type, offset and payload. -/
def interpret (type : UInt8) (offset : Nat) (payload : Bytes) : Except Fault Record :=
  match type with
  | 0 => .ok (.data offset payload)
  | 1 => if payload.length = 0 then .ok .endOfFile else .error .wrongLengthForType
  | 2 => number .segment payload
  | 3 => if payload.length = 4 then .ok .startSegment else .error .wrongLengthForType
  | 4 => number .linear payload
  | 5 => if payload.length = 4 then .ok .startLinear else .error .wrongLengthForType
  | other => .error (.unknownType other)
where
  number (make : Nat → Record) : Bytes → Except Fault Record
    | [high, low] => .ok (make (high.toNat * 256 + low.toNat))
    | _ => .error .wrongLengthForType

/-- The record that these bytes spell, the checksum being the last of them. -/
def ofBytes (bytes : Bytes) : Except Fault Record :=
  let body := bytes.dropLast
  let found := bytes.getLastD 0
  if checksum body ≠ found then .error (.checksum (checksum body) found)
  else
    match body with
    | length :: high :: low :: type :: payload =>
      if payload.length = length.toNat then
        interpret type (high.toNat * 256 + low.toNat) payload
      else .error .wrongLength
    | _ => .error .tooShort

/-- Reads a line. -/
def Record.ofLine (line : List Char) : Except Fault Record :=
  match line with
  | ':' :: digits =>
    match digits.mapM Text.hexDigit? with
    | none => .error .notHexadecimal
    | some values =>
      if values.length < 10 then .error .tooShort
      else if 520 < values.length then .error .tooLong
      else if values.length % 2 ≠ 0 then .error .halfByte
      else ofBytes (pairBytes values)
  | _ => .error .noColon

/-- What reading a file comes to. -/
inductive Outcome where
  | loaded (image : Image)
  | badRecord (fault : Fault)
  /-- Bytes reach past the last address. -/
  | overflow (address : Nat)

/-- Loads the records of `lines` into `image`, counting offsets from `base`, up to the end of file
record or the first fault. -/
def load (base : Nat) (image : Image) : List (List Char) → Outcome
  | [] => .loaded image
  | line :: lines =>
    if line.isEmpty then load base image lines
    else
      match Record.ofLine line with
      | .error fault => .badRecord fault
      | .ok (.data offset bytes) =>
        match image.add? (base + offset) bytes with
        | some image => load base image lines
        | none => .overflow (base + offset)
      | .ok .endOfFile => .loaded image
      | .ok (.segment number) => load (number * 16) image lines
      | .ok (.linear number) => load (number * 65536) image lines
      | .ok .startSegment => load base image lines
      | .ok .startLinear => load base image lines

end BoardDebug.IntelHex
