import BoardDebug.Build.Tool.Usage

namespace BoardDebug.Build.Tool

/-- A way to spell bytes with digits of a fixed number of bits. -/
structure Base where
  tool : String
  /-- The digits, in their order. -/
  digits : List Char
  /-- The bits of a digit. -/
  bits : Nat
  /-- How many digits stand together; signs fill a group up that has fewer. -/
  group : Nat

namespace Base

/-- What the bits of some numbers make together, the first one highest. -/
def joined (bits : Nat) (numbers : List Nat) : Nat :=
  numbers.foldl (fun total n => total * Nat.pow 2 bits + n) 0

/-- The parts of a number with so many bits each, from the highest of so many on. -/
def parts (bits count n : Nat) : List Nat :=
  (List.range count).map fun i => n / Nat.pow 2 (bits * (count - 1 - i)) % Nat.pow 2 bits

/-- The digits that spell one group of bytes. -/
def spellGroup (base : Base) (bytes : Bytes) : List Char :=
  let count := (8 * bytes.length + base.bits - 1) / base.bits
  let n := joined 8 (bytes.map UInt8.toNat) * Nat.pow 2 (base.bits * count - 8 * bytes.length)
  let digits := (parts base.bits count n).map fun digit => base.digits.getD digit '='
  digits ++ List.replicate (base.group - count) '='

/-- The bytes that digits stand for, without bits at their end that make up no byte. -/
def bytesOf (base : Base) (digits : List Nat) : Bytes :=
  let count := base.bits * digits.length / 8
  let n := joined base.bits digits / Nat.pow 2 (base.bits * digits.length - 8 * count)
  (parts 8 count n).map UInt8.ofNat

/-- Whether so many digits, filled up, can stand for bytes. -/
def isWhole (base : Base) (count : Nat) : Bool :=
  count != 0 && base.bits * count % 8 < base.bits

/-- The bytes that one group of signs stands for, and whether that is all that it says. -/
def readGroup (base : Base) (text : List Char) : Bytes × Bool :=
  let digits := text.takeWhile base.digits.contains
  let rest := text.drop digits.length
  let isRight := text.length == base.group && rest.all (· == '=') && base.isWhole digits.length
  (base.bytesOf (digits.map base.digits.idxOf), isRight)

/-- Items in groups of one size, the last of which may be smaller. -/
def groups {α : Type} (size : Nat) : Nat → List α → List (List α)
  | 0, _ => []
  | _, [] => []
  | fuel + 1, items => items.take size :: groups size fuel (items.drop size)

/-- The digits that spell bytes. -/
def spell (base : Base) (bytes : Bytes) : List Char :=
  (groups (base.bits * base.group / 8) bytes.length bytes).flatMap base.spellGroup

/-- The bytes that a text spells up to the first group that is wrong, and whether there is none. -/
def read (base : Base) (text : List Char) : Bytes × Bool :=
  go (groups base.group text.length text)
where
  go : List (List Char) → Bytes × Bool
    | [] => ([], true)
    | group :: rest =>
      match base.readGroup group with
      | (bytes, true) =>
        let (others, isRight) := go rest
        (bytes ++ others, isRight)
      | (bytes, false) => (if group.length = base.group ∨ base.bits = 6 then bytes else [], false)

end Base

def base64 : Base :=
  ⟨"base64", "ABCDEFGHIJKLMNOPQRSTUVWXYZabcdefghijklmnopqrstuvwxyz0123456789+/".toList, 6, 4⟩

def base32 : Base :=
  ⟨"base32", "ABCDEFGHIJKLMNOPQRSTUVWXYZ234567".toList, 5, 8⟩

/-- Spells a file with digits, or the other way round. -/
def recode (base : Base) (arguments : List String) : Work Unit := do
  let manual : Manual := ⟨base.tool, "diw:",
    [("decode", .nothing, 'd'), ("ignore-garbage", .nothing, 'i'), ("wrap", .text, 'w')], false, 1⟩
  let usage ← manual.usage arguments
  let widths ← (usage.texts 'w').mapM fun text =>
    match Text.digits? 10 (if text.startsWith "+" then text.toList.tail else text.toList) with
    | some width => pure width
    | none => do
      Work.complain (base.tool ++ ": invalid wrap size: " ++ quoted text)
      Work.quit 1
  if let some extra := usage.operands[1]? then
    misuse base.tool ("extra operand " ++ quoted extra) 1
  let path := usage.operands.headD "-"
  match ← Work.contents path with
  | .error fault =>
    let isRead := path = "-" ∨ fault = .isDirectory
    let what := if isRead then "read error" else shown path
    Work.complain (base.tool ++ ": " ++ what ++ ": " ++ reason fault)
  | .ok bytes =>
    if usage.has 'd' then
      let keeps (c : Char) : Bool :=
        if usage.has 'i' then base.digits.contains c || c == '=' else c != '\n'
      let (bytes, isRight) := base.read ((Octets.ofBytes bytes).filter keeps)
      Work.print bytes
      if !isRight then Work.complain (base.tool ++ ": invalid input")
    else
      let text := base.spell bytes
      match widths.getLastD 76 with
      | 0 => Work.print (Octets.toBytes text)
      | width => Work.print (Octets.toBytes
          ((Base.groups width text.length text).flatMap (· ++ ['\n'])))

end BoardDebug.Build.Tool
