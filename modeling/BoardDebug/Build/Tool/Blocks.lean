import BoardDebug.Build.Tool.Usage
import BoardDebug.Build.Tool.Base

namespace BoardDebug.Build.Tool

/-- What `dd` is to do. -/
structure Copying where
  source : Option String := none
  target : Option String := none
  inputSize : Nat := 512
  outputSize : Nat := 512
  /-- The size of all blocks. -/
  size : Option Nat := none
  lineSize : Nat := 0
  skip : Nat := 0
  seek : Nat := 0
  count : Option Nat := none
  conversions : List String := []
  inputFlags : List String := []
  outputFlags : List String := []
  status : String := ""

namespace Copying

def conversionWords : List String :=
  ["ascii", "ebcdic", "ibm", "block", "unblock", "lcase", "ucase", "sparse", "swab", "sync",
    "noerror", "excl", "nocreat", "notrunc", "fdatasync", "fsync"]

def flagWords : List String :=
  ["append", "binary", "cio", "direct", "directory", "dsync", "noatime", "nocache", "noctty",
    "nofollow", "nolinks", "nonblock", "sync", "text", "fullblock", "count_bytes", "skip_bytes",
    "seek_bytes"]

/-- A number with a unit, or a product of such numbers. -/
def number? (text : String) : Option Nat := do
  let factors ← (text.splitOn "x").mapM fun factor =>
    let (digits, unit) := factor.toList.span Char.isDigit
    match Text.digits? 10 digits, unit with
    | some n, ['c'] => some n
    | some n, ['w'] => some (2 * n)
    | some n, ['B'] => some n
    | some n, unit => (unit? unit).map (n * ·)
    | none, _ => none
  return factors.foldl (· * ·) 1

/-- What a complaint says of an operand, and whether it mentions help. -/
structure Refusal where
  text : String
  mentionsHelp : Bool := true

def words (what : String) (known : List String) (value : String) :
    Except Refusal (List String) :=
  let given := value.splitOn ","
  match given.find? (!known.contains ·) with
  | some word => .error { text := what ++ ": " ++ quoted word }
  | none => .ok given

/-- Takes what an operand says. -/
def operand (c : Copying) (word : String) : Except Refusal Copying := do
  let (name, value?) := Manual.word?.parts word
  let value ← match value? with
    | some value => pure value
    | none => throw { text := "unrecognized operand " ++ quoted word }
  let isBytes := value.contains 'B'
  let number : Except Refusal Nat :=
    match number? value with
    | some n => .ok n
    | none => .error { text := "invalid number: " ++ quoted value, mentionsHelp := false }
  let positive : Except Refusal Nat := do
    let n ← number
    if n = 0 then throw { text := "invalid number: " ++ quoted value, mentionsHelp := false }
    return n
  let marked (flag : String) (flags : List String) : List String :=
    if isBytes then flag :: flags else flags
  match name with
  | "if" => return { c with source := some value }
  | "of" => return { c with target := some value }
  | "ibs" => return { c with inputSize := ← positive }
  | "obs" => return { c with outputSize := ← positive }
  | "bs" => return { c with size := some (← positive) }
  | "cbs" => return { c with lineSize := ← positive }
  | "count" =>
    return { c with count := some (← number), inputFlags := marked "count_bytes" c.inputFlags }
  | "conv" =>
    let given ← words "invalid conversion" conversionWords value
    return { c with conversions := c.conversions ++ given }
  | "iflag" =>
    let given ← words "invalid input flag" flagWords value
    return { c with inputFlags := c.inputFlags ++ given }
  | "oflag" =>
    let given ← words "invalid output flag" flagWords value
    return { c with outputFlags := c.outputFlags ++ given }
  | "status" =>
    let _ ← words "invalid status level" ["none", "noxfer", "progress"] value
    return { c with status := value }
  | name =>
    if name = "skip" ∨ name = "iseek" then
      return { c with skip := ← number, inputFlags := marked "skip_bytes" c.inputFlags }
    else if name = "seek" ∨ name = "oseek" then
      return { c with seek := ← number, outputFlags := marked "seek_bytes" c.outputFlags }
    else throw { text := "unrecognized operand " ++ quoted word }

def has (c : Copying) (conversion : String) : Bool :=
  c.conversions.contains conversion

def blockSize (c : Copying) : Nat :=
  c.size.getD c.inputSize

def skipped (c : Copying) : Nat :=
  if c.inputFlags.contains "skip_bytes" then c.skip else c.skip * c.blockSize

def offset (c : Copying) : Nat :=
  if c.outputFlags.contains "seek_bytes" then c.seek else c.seek * c.size.getD c.outputSize

def most? (c : Copying) : Option Nat :=
  c.count.map fun n => if c.inputFlags.contains "count_bytes" then n else n * c.blockSize

/-- Bytes in pairs with their places exchanged. -/
def swapped : Bytes → Bytes
  | a :: b :: rest => b :: a :: swapped rest
  | rest => rest

/-- Lines as records of one size: filled up with blanks, or cut off. The result says how many were
cut off. -/
def records (size : Nat) (bytes : Bytes) : Bytes × Nat :=
  let (lines, _) := splitLines 10 bytes
  let fill (line : Bytes) : Bytes :=
    line.take size ++ List.replicate (size - line.length) 32
  (lines.flatMap fill, (lines.filter (size < ·.length)).length)

/-- Records of one size as lines without blanks at their end. -/
def unrecorded (size : Nat) (bytes : Bytes) : Bytes :=
  (Base.groups size bytes.length bytes).flatMap fun record =>
    (record.reverse.dropWhile (· = 32)).reverse ++ [10]

/-- What is written for bytes, and how many records were cut off. -/
def converted (c : Copying) (bytes : Bytes) : Bytes × Nat :=
  let isRecorded := c.has "block" || c.has "unblock"
  let filler : UInt8 := if isRecorded then 32 else 0
  let missing := (c.blockSize - bytes.length % c.blockSize) % c.blockSize
  let bytes := if c.has "sync" then bytes ++ List.replicate missing filler else bytes
  let letter (act : Char → Char) (byte : UInt8) : UInt8 :=
    .ofNat (act (.ofNat byte.toNat)).toNat
  let bytes := if c.has "lcase" then bytes.map (letter Char.toLower)
    else if c.has "ucase" then bytes.map (letter Char.toUpper)
    else bytes
  let bytes := if c.has "swab" then
      ((Base.groups c.blockSize bytes.length bytes).map swapped).flatten
    else bytes
  if c.lineSize = 0 then (bytes, 0)
  else if c.has "block" then records c.lineSize bytes
  else if c.has "unblock" then (unrecorded c.lineSize bytes, 0)
  else (bytes, 0)

/-- A number of bytes with a unit, in steps of so many. -/
def sized (step : Nat) (ending : String) (n : Nat) : String :=
  go 10 0 n 1
where
  go : Nat → Nat → Nat → Nat → String
    | 0, _, n, _ => toString n
    | fuel + 1, power, n, unit =>
      if unit * step ≤ n then go fuel (power + 1) n (unit * step)
      else
        let letters := (if step = 1000 then "kMGTPEZY" else "KMGTPEZY").toList
        let letter := String.ofList ((letters.drop (power - 1)).take 1)
        let tenths := (10 * n + unit / 2) / unit
        let digits := if tenths < 100 then toString (tenths / 10) ++ "." ++ toString (tenths % 10)
          else toString ((n + unit / 2) / unit)
        if power = 0 then toString n ++ " B" else digits ++ " " ++ letter ++ ending

/-- What is said at the end of the bytes that were copied. -/
def total (n : Nat) : String :=
  let sizes :=
    if n < 1000 then ""
    else if n < 1024 then " (" ++ sized 1000 "B" n ++ ")"
    else " (" ++ sized 1000 "B" n ++ ", " ++ sized 1024 "iB" n ++ ")"
  toString n ++ (if n = 1 then " byte" else " bytes") ++ sizes ++ " copied, 0 s, Infinity B/s\n"

/-- How many blocks there are: whole ones, and whether there is one that is not. -/
def recordText (count size : Nat) : String :=
  toString (count / size) ++ "+" ++ (if count % size = 0 then "0" else "1") ++ " records "

/-- Says what was copied. -/
def report (c : Copying) (taken given cut : Nat) : Work Unit := do
  if c.status ≠ "none" then
    let outputSize := c.size.getD c.outputSize
    let truncated :=
      if cut = 0 then ""
      else if cut = 1 then "1 truncated record\n"
      else toString cut ++ " truncated records\n"
    let sizes := if c.status = "noxfer" then "" else total given
    Work.write true (Octets.bytes (recordText taken c.blockSize ++ "in\n" ++
      recordText given outputSize ++ "out\n" ++ truncated ++ sizes))

def fail {α : Type} (text : String) : Work α := do
  Work.complain ("dd: " ++ text)
  Work.quit 1

/-- Makes the file that is written to, and takes away what is not to stay in it. -/
def openTarget (c : Copying) (path : String) : Work Unit := do
  let refuse (fault : FileFault) : Work Unit :=
    fail ("failed to open " ++ quoted path ++ ": " ++ reason fault)
  match (← Work.files).find path with
  | .ok (_, ⟨.directory, _, _⟩) => refuse .isDirectory
  | .ok (_, node) =>
    if c.has "excl" then fail ("failed to open " ++ quoted path ++ ": File exists")
    if !c.has "notrunc" then
      let old := Files.bytesOf node.body
      let kept := old.take c.offset ++ List.replicate (c.offset - old.length) 0
      let _ ← Work.store path kept
  | .error .missing =>
    if c.has "nocreat" then refuse .missing
    else
      match ← Work.store path (List.replicate (if c.has "notrunc" then 0 else c.offset) 0) with
      | .ok () => return ()
      | .error fault => refuse fault
  | .error fault => refuse fault

/-- Puts bytes into the file that is written to. -/
def give (c : Copying) (path : String) (bytes : Bytes) : Work Unit := do
  if path = "/dev/stdout" then Work.print bytes
  else if path = "/dev/stderr" then Work.write true bytes
  else if !bytes.isEmpty then
    let old := ((← Work.files).contents path).toOption.getD []
    let start := if c.outputFlags.contains "append" then old.length else c.offset
    let before := old.take start ++ List.replicate (start - old.length) 0
    let _ ← Work.store path (before ++ bytes ++ old.drop (start + bytes.length))

/-- The bytes that are to be copied, and how many were there to be skipped. -/
def take (c : Copying) : Work (Bytes × Nat) := do
  let part (bytes : Bytes) : Bytes × Nat :=
    let rest := bytes.drop c.skipped
    ((c.most?.map rest.take).getD rest, bytes.length)
  match c.source with
  | none =>
    let found := part (← get).input
    modify fun done => { done with input := done.input.drop (c.skipped + found.1.length) }
    return found
  | some path =>
    if Work.isInput path then
      let found := part (← get).input
      modify fun done => { done with input := done.input.drop (c.skipped + found.1.length) }
      return found
    else
      match (← Work.files).find path with
      | .ok (_, ⟨.device (some fill), _, _⟩) =>
        return (List.replicate (c.most?.getD Files.endless) fill, c.skipped)
      | _ => return part ((← Work.contents path).toOption.getD [])

/-- Copies. -/
def run (c : Copying) : Work Unit := do
  let isDirectory ← match c.source with
    | none => pure false
    | some path =>
      if Work.isInput path then pure false
      else
        match ← Work.contents path with
        | .ok _ => pure false
        | .error .isDirectory => pure true
        | .error fault => fail ("failed to open " ++ quoted path ++ ": " ++ reason fault)
  if let some path := c.target then
    if path ≠ "/dev/stdout" ∧ path ≠ "/dev/stderr" then c.openTarget path
  if isDirectory then
    Work.complain ("dd: error reading " ++ quoted (c.source.getD "") ++ ": Is a directory")
    c.report 0 0 0
  else
    let (bytes, there) ← c.take
    if there < c.skipped then
      let name := (c.source.map shown).getD "'standard input'"
      Work.write true (Octets.bytes ("dd: " ++ name ++ ": cannot skip to specified offset\n"))
    let (written, cut) := c.converted bytes
    match c.target with
    | some path => c.give path written
    | none => Work.print written
    c.report bytes.length written.length cut

/-- Conversions that exclude each other. -/
def clashes : List (String × String) :=
  [("ascii", "ebcdic"), ("ascii", "ibm"), ("ebcdic", "ibm"), ("block", "unblock"),
    ("lcase", "ucase"), ("excl", "nocreat")]

end Copying

/-- Copies a file in blocks, or a part of it into a part of another. -/
def dd (arguments : List String) : Work Unit := do
  let usage ← (⟨"dd", "", [], false, 1⟩ : Manual).usage arguments
  let c ← usage.operands.foldlM
    (fun (c : Copying) word => do
      match c.operand word with
      | .ok c => return c
      | .error refusal =>
        if refusal.mentionsHelp then misuse "dd" refusal.text 1
        else Copying.fail refusal.text)
    {}
  match Copying.clashes.find? fun (a, b) => c.has a ∧ c.has b with
  | some (a, b) =>
    if b = "ibm" ∨ b = "ebcdic" then
      Copying.fail "cannot combine any two of \x7bascii,ebcdic,ibm\x7d"
    else Copying.fail ("cannot combine " ++ a ++ " and " ++ b)
  | none => c.run

end BoardDebug.Build.Tool
