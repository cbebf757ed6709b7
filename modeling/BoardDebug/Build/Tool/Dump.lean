import BoardDebug.Build.Tool.Usage
import BoardDebug.Build.Tool.Base

namespace BoardDebug.Build.Tool

/-- How the bytes of a file are shown that stand together as one item. -/
structure Display where
  /-- Names, characters, or numbers with a sign or without, of base eight, ten or sixteen. -/
  kind : Char
  /-- The bytes of an item. -/
  size : Nat
  /-- Whether a line ends with its bytes as a text. -/
  isTrailed : Bool := false

namespace Display

/-- How wide an item is at most. -/
def width (display : Display) : Nat :=
  let bits := 8 * display.size
  match display.kind with
  | 'o' => (bits + 2) / 3
  | 'x' => bits / 4
  | 'u' => (Nat.toDigits 10 (Nat.pow 2 bits - 1)).length
  | 'd' => (Nat.toDigits 10 (Nat.pow 2 (bits - 1))).length + 1
  | _ => 3

/-- The names of characters that cannot be seen. -/
def names : List String :=
  ["nul", "soh", "stx", "etx", "eot", "enq", "ack", "bel", "bs", "ht", "nl", "vt", "ff", "cr", "so",
    "si", "dle", "dc1", "dc2", "dc3", "dc4", "nak", "syn", "etb", "can", "em", "sub", "esc", "fs",
    "gs", "rs", "us", "sp"]

def named (code : Nat) : String :=
  if code = 127 then "del" else names.getD code (String.singleton (Char.ofNat code))

/-- A byte as a character, or as it is spelled behind a backslash. -/
def spelledByte (code : Nat) : String :=
  let c := Char.ofNat code
  if code = 0 then "\\0"
  else if isPrintable c then String.singleton c
  else
    match spelled c with
    | [letter] => String.ofList ['\\', letter]
    | digits => String.ofList digits

/-- The text of one item, whose bytes come with the lowest first. -/
def item (display : Display) (bytes : Bytes) : String :=
  let n := Base.joined 8 (bytes.reverse.map UInt8.toNat)
  match display.kind with
  | 'o' => String.ofList (Text.zeroFill display.width (Nat.toDigits 8 n))
  | 'x' => Text.hex display.width n
  | 'u' => toString n
  | 'd' =>
    let half := Nat.pow 2 (8 * display.size - 1)
    toString (if half ≤ n then (n : Int) - 2 * half else (n : Int))
  | 'a' => named (n % 128)
  | _ => spelledByte n

/-- The items of a line, in a width that is shared among them as evenly as possible. -/
def items (display : Display) (line pad : Nat) (bytes : Bytes) : String :=
  let fields := line / display.size
  let shown := (bytes.length + display.size - 1) / display.size
  let filled := bytes ++ List.replicate (shown * display.size - bytes.length) 0
  let texts := (Base.groups display.size filled.length filled).map display.item
  let padOf (i : Nat) : Nat := pad * (fields - i) / fields
  let padded := (List.range shown).zipWith (fun i text =>
    let width := display.width + padOf i - padOf (i + 1)
    String.ofList (List.replicate (width - text.length) ' ') ++ text) texts
  let trailer :=
    if display.isTrailed then
      let blank := fields - shown
      let isSeen (byte : UInt8) : Bool := isPrintable (.ofNat byte.toNat)
      let text := bytes.map fun byte => if isSeen byte then Char.ofNat byte.toNat else '.'
      String.ofList (List.replicate (blank * display.width + pad * blank / fields) ' ' ++
        "  >".toList ++ text ++ ['<'])
    else ""
  String.join padded ++ trailer

end Display

/-- How addresses are shown: their base and width, or not at all. -/
abbrev Addresses := Option (Nat × Nat)

def addressText (addresses : Addresses) (address : Nat) : String :=
  match addresses with
  | some (base, width) => String.ofList (Text.zeroFill width (Nat.toDigits base address))
  | none => ""

/-- The lines that show bytes, in blocks of one size. Blocks like the one before are left out if
`spares`, with one star in their place. -/
def dumpLines (displays : List Display) (addresses : Addresses) (spares : Bool) (size : Nat) :
    Nat → Option Bytes → (isSparing : Bool) → Nat → Bytes → List String
  | 0, _, _, _, _ => []
  | fuel + 1, before, isSparing, address, bytes =>
    let block := bytes.take size
    let rest := bytes.drop size
    let go := dumpLines displays addresses spares size fuel
    if block.isEmpty then
      if addresses.isSome then [addressText addresses address] else []
    else if spares ∧ block.length = size ∧ before = some block then
      (if isSparing then [] else ["*"]) ++ go before true (address + size) rest
    else
      let widths := displays.map fun d => (d.width + 1) * (size / d.size)
      let widest := widths.foldl max 0
      let lines := displays.map fun d =>
        d.items size (widest - d.width * (size / d.size)) block
      let front := addressText addresses address
      let blank := String.ofList (List.replicate front.length ' ')
      let written := match lines with
        | [] => []
        | first :: others => (front ++ first) :: others.map (blank ++ ·)
      written ++ go (some block) false (address + block.length) rest

/-- The displays that a text asks for. -/
def displays (whole : String) : Nat → List Char → Except String (List Display)
  | 0, _ => .ok []
  | _, [] => .ok []
  | fuel + 1, kind :: rest => do
    let isNumber := "doux".toList.contains kind
    if !isNumber ∧ kind ≠ 'a' ∧ kind ≠ 'c' then
      throw ("invalid character '" ++ String.singleton kind ++ "' in type string " ++ quoted whole)
    let (size, rest) ← if isNumber then numberSize rest else pure (1, rest)
    let (isTrailed, rest) := match rest with
      | 'z' :: rest => (true, rest)
      | rest => (false, rest)
    return ⟨kind, size, isTrailed⟩ :: (← displays whole fuel rest)
where
  numberSize (text : List Char) : Except String (Nat × List Char) := do
    match text with
    | 'C' :: rest => return (1, rest)
    | 'S' :: rest => return (2, rest)
    | 'I' :: rest => return (4, rest)
    | 'L' :: rest => return (8, rest)
    | text =>
      let (digits, rest) := text.span Char.isDigit
      if digits.isEmpty then return (4, rest)
      else
        let size := (Text.digits? 10 digits).getD 0
        if [1, 2, 4, 8].contains size then return (size, rest)
        else
          throw ("invalid type string " ++ quoted whole ++
            ";\nthis system doesn't provide a " ++ toString size ++ "-byte integral type")

def odManual : Manual where
  tool := "od"
  letters := "A:aBbcDdHhIij:LlN:OosS:t:vw::Xx"
  words := [("address-radix", .text, 'A'), ("endian", .text, 'e'), ("format", .text, 't'),
    ("output-duplicates", .nothing, 'v'), ("read-bytes", .text, 'N'), ("skip-bytes", .text, 'j'),
    ("strings", .perhaps, 'S'), ("width", .perhaps, 'w')]

/-- The type strings that letters stand for. -/
def typeOf? : Char → Option String
  | 'a' => some "a"
  | 'B' => some "o2"
  | 'b' => some "o1"
  | 'c' => some "c"
  | 'D' => some "u4"
  | 'd' => some "u2"
  | 'H' => some "x4"
  | 'h' => some "x2"
  | 'I' => some "d8"
  | 'i' => some "d4"
  | 'L' => some "d8"
  | 'l' => some "d8"
  | 'O' => some "o4"
  | 'o' => some "o2"
  | 's' => some "d2"
  | 'X' => some "x4"
  | 'x' => some "x2"
  | _ => none

/-- A number of bytes, whose base its beginning says. -/
def byteCount? (text : String) : Option Nat :=
  match text.toList with
  | '0' :: 'x' :: digits => Text.digits? 16 digits
  | '0' :: c :: rest => if c.isDigit then Text.digits? 8 (c :: rest) else amount? ('0' :: c :: rest)
  | text => amount? text

/-- Shows the bytes of files as numbers or characters. -/
def od (arguments : List String) : Work Unit := do
  let usage ← odManual.usage arguments
  let give {α : Type} (found : Except String α) : Work α := do
    match found with
    | .ok value => return value
    | .error text => do
      Work.complain ("od: " ++ text)
      Work.quit 1
  let types := usage.given.filterMap fun (c, text) => if c = 't' then some text else typeOf? c
  let asked ← types.mapM fun text => give (displays text text.length text.toList)
  let shownAs := if types.isEmpty then [⟨'o', 2, false⟩] else asked.flatten
  let addresses ← give (match (usage.text? 'A').getD "o" with
    | "o" => .ok (some (8, 7))
    | "d" => .ok (some (10, 7))
    | "x" => .ok (some (16, 6))
    | "n" => .ok none
    | text => .error ("invalid output address radix '" ++ text ++
        "'; it must be one character from [doxn]"))
  let number (letter : Char) (text : String) : Except String Nat :=
    match byteCount? text with
    | some n => .ok n
    | none => .error ("invalid -" ++ String.singleton letter ++ " argument " ++ quoted text)
  let counts (letter : Char) : Work (List Nat) :=
    (usage.texts letter).mapM fun text => give (number letter text)
  let skipped := (← counts 'j').getLastD 0
  let most := (← counts 'N').getLast?
  let unit := (shownAs.map (·.size)).foldl Nat.lcm 1
  let usual := if 16 % unit = 0 then 16 else unit
  let size ← match usage.text? 'w' with
    | none => pure usual
    | some "" => pure 32
    | some text => do
      let width ← give (number 'w' text)
      if width = 0 ∨ width % unit ≠ 0 then
        Work.complain ("od: warning: invalid width " ++ toString width ++ "; using " ++
          toString unit ++ " instead")
        Work.setStatus 0
        pure unit
      else pure width
  let paths := if usage.operands.isEmpty then ["-"] else usage.operands
  let found ← paths.mapM fun path => do
    match ← Work.contents path with
    | .ok bytes => return some bytes
    | .error fault =>
      let what := if path = "-" then "'standard input'"
        else if fault = .isDirectory then shown path ++ ": read error"
        else shown path
      Work.complain ("od: " ++ what ++ ": " ++ reason fault)
      return if path = "-" ∨ fault = .isDirectory then some [] else none
  let there := found.filterMap id
  if there.isEmpty then Work.stop
  let bytes := there.flatten
  if bytes.length < skipped then
    Work.complain "od: cannot skip past end of combined input"
    Work.stop
  let bytes := bytes.drop skipped
  let bytes := (most.map bytes.take).getD bytes
  let lines := dumpLines shownAs addresses (!usage.has 'v') size (bytes.length + 1) none false
    skipped bytes
  Work.say (String.join (lines.map (· ++ "\n")))

end BoardDebug.Build.Tool
