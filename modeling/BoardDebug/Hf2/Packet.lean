import BoardDebug.Bytes
import BoardDebug.Link

namespace BoardDebug

/-- A half-word's two bytes, least significant first. -/
def halfWordBytes (word : UInt16) : Bytes :=
  [.ofNat word.toNat, .ofNat (word.toNat / 256)]

namespace Hf2

/-- The number of bytes in a report. -/
def reportSize : Nat := 64

/-- How many bytes one packet can carry besides its header. -/
def maxPayload : Nat := reportSize - 1

/-- A command with its tag, as it is sent: two bytes are reserved. -/
def commandMessage (command : UInt32) (tag : UInt16) (payload : Bytes) : Bytes :=
  Word.bytes command ++ halfWordBytes tag ++ [0, 0] ++ payload

/-- What a packet is. The top two bits of its header say so. -/
inductive PacketKind where
  /-- A part of a message that goes on. -/
  | inner
  /-- The last part of a message. -/
  | final
  /-- Console output, which belongs to no message. -/
  | serial (errors : Bool)
deriving DecidableEq

namespace PacketKind

def bits : PacketKind → UInt8
  | inner => 0x00
  | final => 0x40
  | serial false => 0x80
  | serial true => 0xc0

def ofHeader (header : UInt8) : PacketKind :=
  if header < 0x40 then inner
  else if header < 0x80 then final
  else serial (0xc0 ≤ header)

end PacketKind

/-- A packet: a header with the kind and the number of bytes, then the bytes. -/
def packet (kind : PacketKind) (data : Bytes) : Bytes :=
  (kind.bits + .ofNat data.length) :: data

/-- The packets of a message whose parts are `parts`. -/
def packets : List Bytes → List Bytes
  | [] => []
  | [last] => [packet .final last]
  | part :: rest => packet .inner part :: packets rest

/-- A packet as it is written: filled up with zeros, and behind a report number. -/
def outputReport (packet : Bytes) : Bytes :=
  0 :: packet ++ List.replicate (reportSize - packet.length) 0

/-- The reports in which a message is written. -/
def outputReports (message : Bytes) : List Bytes :=
  (packets (chunks maxPayload message)).map outputReport

/-- A complete unit that packets make up. -/
inductive Frame where
  | message (bytes : Bytes)
  | serial (errors : Bool) (bytes : Bytes)
deriving DecidableEq

/-- Puts messages together from packets. -/
structure Assembler where
  /-- The parts of the message so far. -/
  parts : Bytes
deriving DecidableEq

namespace Assembler

def empty : Assembler := ⟨[]⟩

/-- Takes a packet in, without a report number; bytes after those that it announces do not count. -/
def push (a : Assembler) : Bytes → Except Malformed (Option Frame × Assembler)
  | [] => .ok (none, a)
  | header :: rest =>
    let announced := header.toNat % 64
    if rest.length < announced then .error (.shortPacket announced rest.length)
    else
      let data := rest.take announced
      match PacketKind.ofHeader header with
      | .inner => .ok (none, ⟨a.parts ++ data⟩)
      | .final => .ok (some (.message (a.parts ++ data)), empty)
      | .serial errors => .ok (some (.serial errors data), a)

end Assembler

/-- The half-word of two bytes, `low` the less significant. -/
def halfWord (low high : UInt8) : UInt16 :=
  .ofNat (low.toNat + 256 * high.toNat)

/-- A message from a device. -/
inductive Answer where
  | response (tag : UInt16) (status info : UInt8) (payload : Bytes)
  /-- Something that nobody asked for. -/
  | event (event : Event)
deriving DecidableEq

namespace Answer

/-- Reads a message. The top bit of the first half-word marks an event, whose code is the whole
first word. -/
def ofBytes (bytes : Bytes) : Except Malformed Answer :=
  match bytes with
  | a :: b :: c :: d :: payload =>
    if b < 0x80 then .ok (.response (halfWord a b) c d payload)
    else .ok (.event ⟨Word.ofBytes a b c d, payload⟩)
  | short => .error (.headless short.length)

def bytes : Answer → Bytes
  | response tag status info payload => halfWordBytes tag ++ [status, info] ++ payload
  | event e => Word.bytes e.code ++ e.payload

end Answer

end Hf2

end BoardDebug
