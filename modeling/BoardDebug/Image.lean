import BoardDebug.Bytes

namespace BoardDebug

/-- Bytes to be written from an address on. -/
structure Block where
  address : UInt32
  data : Bytes
deriving DecidableEq, Repr

namespace Block

/-- The address after the last byte. -/
def stop (b : Block) : Nat :=
  b.address.toNat + b.data.length

/-- The bytes of a block, each with its address. -/
def cells (b : Block) : List (Nat × UInt8) :=
  b.data.zipIdx.map fun (byte, offset) => (b.address.toNat + offset, byte)

end Block

/-- A program as it is written to a device. -/
structure Image where
  blocks : List Block
deriving DecidableEq, Repr, Inhabited

/-- A page of flash memory. -/
structure Page where
  address : Nat
  data : Bytes
deriving DecidableEq, Repr

namespace Image

def empty : Image := ⟨[]⟩

/-- Puts bytes behind the last block; they join it if they start where it stops. -/
def append (address : Nat) (data : Bytes) : List Block → List Block
  | [] => [⟨.ofNat address, data⟩]
  | [last] =>
    if last.stop = address then [⟨last.address, last.data ++ data⟩]
    else [last, ⟨.ofNat address, data⟩]
  | b :: rest => b :: append address data rest

/-- Adds bytes, unless they reach past the last address. -/
def add? (address : Nat) (data : Bytes) (image : Image) : Option Image :=
  if address + data.length ≤ 0x100000000 then some ⟨append address data image.blocks⟩ else none

/-- The bytes of an image in the order in which they were added, each with its address. -/
def cells (image : Image) : List (Nat × UInt8) :=
  image.blocks.flatMap Block.cells

/-- The number of bytes. -/
def size (image : Image) : Nat :=
  image.blocks.foldr (fun b n => b.data.length + n) 0

def isEmpty (image : Image) : Bool :=
  image.size == 0

/-- A page of erased memory. -/
def erasedPage (pageSize address : Nat) : Page :=
  ⟨address, List.replicate pageSize 0xff⟩

/-- Writes one byte into pages that are in increasing order. -/
def writeCell (pageSize : Nat) (cell : Nat × UInt8) : List Page → List Page
  | [] => [write (erasedPage pageSize (cell.1 - cell.1 % pageSize))]
  | page :: rest =>
    let start := cell.1 - cell.1 % pageSize
    if start < page.address then write (erasedPage pageSize start) :: page :: rest
    else if start = page.address then write page :: rest
    else page :: writeCell pageSize cell rest
where
  write (page : Page) : Page :=
    { page with data := page.data.set (cell.1 % pageSize) cell.2 }

/-- The pages that an image touches, in increasing order. Bytes that it does not give are erased;
a page holds at least one byte. -/
def pages (image : Image) (pageSize : Nat) : List Page :=
  image.cells.foldl (fun pages cell => writeCell (max pageSize 1) cell pages) []

end Image

end BoardDebug
