import BoardDebug.Image

namespace BoardDebug.Uf2

/-- Why a UF2 file cannot be decoded; the number is that of the block. -/
inductive Fault where
  | dataSize (block : Nat)
  | padding (block : Nat)
  | unalignedPadding (block : Nat)
deriving DecidableEq, Repr

def Fault.message : Fault → String
  | dataSize block => s!"InvalidDataSize({block})"
  | padding block => s!"TooMuchPaddingRequired({block})"
  | unalignedPadding block => s!"NonWordPaddingSize({block})"

/-- A block of 512 bytes, so far as its header has a meaning here. -/
structure Block where
  address : UInt32
  size : Nat
  /-- Whether the block names a family. Only such a block carries data. -/
  hasFamily : Bool
  family : UInt32
  payload : Bytes

/-- The header word with number `i`. -/
def header (block : Bytes) (i : Nat) : UInt32 :=
  match wordAt block i with
  | .ok word => word
  | .error _ => 0

/-- The result is `none` for a block that is not to be flashed. The last word of a block is not
looked at. -/
def Block.ofBytes? (bytes : Bytes) : Option Block :=
  let flags := header bytes 2
  if header bytes 0 = 0x0a324655 ∧ header bytes 1 = 0x9e5d5157 ∧ flags &&& 1 = 0 then
    some
      { address := header bytes 3
        size := (header bytes 4).toNat
        hasFamily := flags &&& 0x2000 ≠ 0
        family := header bytes 7
        payload := (bytes.drop 32).take (header bytes 4).toNat }
  else none

/-- The whole blocks of a file with their numbers; bytes left over at the end are dropped. -/
def blocks (bytes : Bytes) : List (Nat × Option Block) :=
  (List.range (bytes.length / 512)).map fun i =>
    (i, Block.ofBytes? ((bytes.drop (512 * i)).take 512))

/-- Where decoding stands. -/
structure State where
  /-- The bytes so far. -/
  output : Bytes
  /-- Where the next byte belongs, once a block has said so. -/
  cursor : Option UInt32
  family : Option UInt32
  /-- The lowest address of each family. -/
  starts : List (UInt32 × UInt32)

def State.initial : State := ⟨[], none, none, []⟩

/-- The largest gap that is filled. -/
def maxPadding : Nat := 10 * 1024 * 1024

/-- The family that is current when a block is put in place. -/
def State.familyFor (s : State) (b : Block) : Option UInt32 :=
  if b.hasFamily ∧ s.family = none then some b.family else s.family

/-- Whether a block starts a stretch of its own. -/
def State.startsAnew (s : State) (b : Block) : Bool :=
  s.cursor.isNone || (b.hasFamily && s.familyFor b != some b.family)

/-- Puts one block behind what is there, with zeros in the gap. -/
def State.put (s : State) (number : Nat) (b : Block) : Except Fault State :=
  if 476 < b.size then .error (.dataSize number)
  else
    let origin := if s.startsAnew b then b.address else s.cursor.getD b.address
    let gap := (b.address - origin).toNat
    if maxPadding < gap then .error (.padding number)
    else if gap % 4 ≠ 0 then .error (.unalignedPadding number)
    else
      .ok
        { output := s.output ++ List.replicate gap 0 ++ (if b.hasFamily then b.payload else [])
          cursor := some (b.address + .ofNat b.size)
          family := if s.startsAnew b then some b.family else s.familyFor b
          starts :=
            if b.hasFamily then
              match s.starts.lookup b.family with
              | some start =>
                if b.address < start then (b.family, b.address) :: s.starts else s.starts
              | none => (b.family, b.address) :: s.starts
            else s.starts }

/-- Decodes numbered blocks, passing over those that are not to be flashed. -/
def State.run (s : State) : List (Nat × Option Block) → Except Fault State
  | [] => .ok s
  | (_, none) :: rest => s.run rest
  | (number, some b) :: rest =>
    match s.put number b with
    | .ok s => s.run rest
    | .error fault => .error fault

/-- What a file decodes to. -/
structure Contents where
  output : Bytes
  /-- The lowest address that carries data, if any does. -/
  start : Option UInt32

def decode (bytes : Bytes) : Except Fault Contents :=
  (State.initial.run (blocks bytes)).map fun s =>
    { output := s.output, start := (s.starts.map (·.2)).min? }

end BoardDebug.Uf2
