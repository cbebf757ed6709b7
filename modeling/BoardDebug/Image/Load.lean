import BoardDebug.Files
import BoardDebug.Image.IntelHex
import BoardDebug.Image.Uf2
import BoardDebug.Text.Case
import BoardDebug.Text.Show
import BoardDebug.Text.Utf8

namespace BoardDebug.Path

/-- The parts of a path between its slashes, without empty ones. -/
def parts (path : String) : List (List Char) :=
  (path.toList.splitOn '/').filter (!·.isEmpty)

/-- The last part of a path; trailing slashes and dots do not count, and a path to a parent has no
name. -/
def name? (path : String) : Option (List Char) :=
  match (parts path).filter (· ≠ ['.']) |>.getLast? with
  | some name => if name = ['.', '.'] then none else some name
  | none => none

/-- What follows the last point of a name, if something stands before that point. -/
def extensionOf? (name : List Char) : Option (List Char) :=
  match name.reverse.span (· ≠ '.') with
  | (_, []) => none
  | (_, [_]) => none
  | (after, _ :: _) => some after.reverse

def extension? (path : String) : Option String :=
  (name? path).bind extensionOf? |>.map String.ofList

end BoardDebug.Path

namespace BoardDebug

inductive ImageFormat where
  /-- Raw bytes for a given address. -/
  | raw
  | intelHex
  | uf2
deriving DecidableEq, Repr

namespace ImageFormat

/-- The format with a name in any case, or the name in small letters if there is none. -/
def ofName (name : String) : Except String ImageFormat :=
  match Text.lower name with
  | "bin" => .ok .raw
  | "binary" => .ok .raw
  | "hex" => .ok .intelHex
  | "ihex" => .ok .intelHex
  | "intelhex" => .ok .intelHex
  | "uf2" => .ok .uf2
  | other => .error other

/-- The format that the ending of a path names. -/
def ofPath? (path : String) : Option ImageFormat :=
  (Path.extension? path).bind fun ending => (ofName ending).toOption

/-- The name of a format in a configuration. -/
def key : ImageFormat → String
  | raw => "bin"
  | intelHex => "hex"
  | uf2 => "uf2"

/-- The formats with their names in a configuration. -/
def keys : List (String × ImageFormat) :=
  [raw, intelHex, uf2].map fun format => (format.key, format)

end ImageFormat

end BoardDebug

namespace BoardDebug

/-- Why an image cannot be loaded. -/
inductive ImageError where
  | file (fault : FileFault)
  | record (fault : IntelHex.Fault)
  | uf2 (fault : Uf2.Fault)
  | nothingToLoad
  | overflow (address : Nat)
  | unknownFormat (name : String)
deriving DecidableEq

/-- The error and what caused it, outermost first. -/
def ImageError.chain : ImageError → List String
  | file fault => ["Failed to read image file", fault.message]
  | record fault => ["Failed to parse Intel HEX record", fault.message]
  | uf2 fault => [s!"Failed to decode UF2 image: {fault.message}"]
  | nothingToLoad => ["The image contains no loadable data"]
  | overflow address =>
    ["Image data at 0x" ++ Text.hex 1 address ++ " does not fit into the 32-bit address space"]
  | unknownFormat name =>
    ["Unknown image format '" ++ name ++ "' (supported: bin, hex, uf2)"]

namespace Image

/-- An image with the given bytes added. -/
def add (image : Image) (address : Nat) (data : Bytes) : Except ImageError Image :=
  match image.add? address data with
  | some image => .ok image
  | none => .error (.overflow address)

/-- The bytes of a raw file, for the address `base`. -/
def ofRaw (base : UInt32) (data : Bytes) : Except ImageError Image :=
  empty.add base.toNat data

/-- The image that an Intel HEX text describes. -/
def ofIntelHex (text : List Char) : Except ImageError Image :=
  match IntelHex.load 0 empty (Text.lines text) with
  | .loaded image => if image.blocks.isEmpty then .error .nothingToLoad else .ok image
  | .badRecord fault => .error (.record fault)
  | .overflow address => .error (.overflow address)

/-- The image in a UF2 file. What it decodes to becomes one block, which starts at the lowest
address of all families. -/
def ofUf2 (bytes : Bytes) : Except ImageError Image :=
  match Uf2.decode bytes with
  | .error fault => .error (.uf2 fault)
  | .ok contents =>
    match contents.start with
    | none => .error .nothingToLoad
    | some start => empty.add start.toNat contents.output

/-- Reads bytes of a known format. -/
def decode (format : ImageFormat) (base : UInt32) (bytes : Bytes) : Except ImageError Image :=
  match format with
  | .raw => ofRaw base bytes
  | .intelHex => ofIntelHex (Utf8.decodeLossy bytes)
  | .uf2 => ofUf2 bytes

/-- Loads an image file. Without a format the ending of the path decides, and UF2 is the format of
all other files. -/
def load (files : Files) (path : String) (format : Option ImageFormat) (base : UInt32) :
    Except ImageError Image :=
  match files.read path with
  | .error fault => .error (.file fault)
  | .ok bytes => decode ((format <|> ImageFormat.ofPath? path).getD .uf2) base bytes

end Image

end BoardDebug
