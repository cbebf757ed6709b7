import BoardDebug.Build.Tool.Usage

namespace BoardDebug.Build.Tool

def cmpManual : Manual where
  tool := "cmp"
  letters := "bi:ln:sv"
  words := [("print-bytes", .nothing, 'b'), ("ignore-initial", .text, 'i'),
    ("verbose", .nothing, 'l'), ("bytes", .text, 'n'), ("quiet", .nothing, 's'),
    ("silent", .nothing, 's')]
  status := 2

/-- A complaint about the arguments of a tool that names itself in front of each line. -/
def misuseTwice {α : Type} (name text : String) : Work α := do
  Work.complain (name ++ ": " ++ text)
  Work.write true (Octets.bytes (name ++ ": Try '" ++ name ++ " --help' for more information.\n"))
  Work.quit 2

/-- What arguments say to a tool that names itself in front of each line. -/
def usageTwice (manual : Manual) (arguments : List String) : Work Usage := do
  match manual.parse (arguments.length + 1) arguments with
  | .error text => misuseTwice manual.tool text
  | .ok usage => if usage.has '?' then Work.stop else return usage

/-- Where two runs of bytes first differ: how many bytes come before, how many of them end lines,
and the bytes. -/
def firstDifference : Nat → Nat → Bytes → Bytes → Nat × Nat × Option UInt8 × Option UInt8
  | count, lines, a :: as, b :: bs =>
    if a = b then firstDifference (count + 1) (if a = 10 then lines + 1 else lines) as bs
    else (count, lines, some a, some b)
  | count, lines, as, bs => (count, lines, as.head?, bs.head?)

/-- A byte with marks in place of what cannot be printed. -/
def markedByte (byte : UInt8) : String :=
  let low := byte.toNat % 128
  let inner := if low < 32 then ['^', Char.ofNat (low + 64)] else if low = 127 then ['^', '?']
    else [Char.ofNat low]
  (if byte < 128 then "" else "M-") ++ String.ofList inner

def octalByte (byte : UInt8) : String :=
  let digits := Nat.toDigits 8 byte.toNat
  String.ofList (List.replicate (3 - digits.length) ' ' ++ digits)

def padLeft (width : Nat) (text : String) : String :=
  String.ofList (List.replicate (width - text.length) ' ') ++ text

/-- The places at which two runs of bytes differ, counted from one, with the bytes. -/
def differences : Nat → Bytes → Bytes → List (Nat × UInt8 × UInt8)
  | n, a :: as, b :: bs =>
    if a = b then differences (n + 1) as bs else (n, a, b) :: differences (n + 1) as bs
  | _, _, _ => []

/-- Says whether two files are the same. -/
def cmp (arguments : List String) : Work Unit := do
  let usage ← usageTwice cmpManual arguments
  let (first, others) ← match usage.operands with
    | [] => misuseTwice "cmp" "missing operand after 'cmp'"
    | first :: others => pure (first, others)
  let second := others.headD "-"
  let isSilent := usage.has 's'
  let skips := ((usage.text? 'i').map (·.splitOn ":")).getD others.tail
  let skip (n : Nat) : Nat := ((skips[n]?).bind fun text => amount? text.toList).getD 0
  let skipOther := if (usage.text? 'i').isSome ∧ skips.length = 1 then skip 0 else skip 1
  let limit := (usage.text? 'n').bind fun text => amount? text.toList
  let read (path : String) (start : Nat) : Work Bytes := do
    match ← Work.contents path with
    | .ok bytes =>
      let rest := bytes.drop start
      return (limit.map rest.take).getD rest
    | .error fault =>
      if !isSilent ∨ fault ≠ .missing then
        Work.complain ("cmp: " ++ path ++ ": " ++ reason fault)
      Work.quit 2
  let a ← read first (skip 0)
  let b ← read second skipOther
  let (count, lines, x, y) := firstDifference 0 0 a b
  let lineEnd := if (a.take count).getLast? = some 10 then ", line " ++ toString lines
    else ", in line " ++ toString (lines + 1)
  if usage.has 'l' ∧ !isSilent then
    let width := (toString (max 1 (min a.length b.length))).length
    (differences 1 a b).forM fun (n, x, y) => do
      Work.setStatus 1
      let shown (byte : UInt8) : String :=
        octalByte byte ++ (if usage.has 'b' then " " ++ markedByte byte else "")
      Work.say (padLeft width (toString n) ++ " " ++ shown x ++ " " ++ shown y ++ "\n")
    if a.length < b.length then ended false first a.length ""
    else if b.length < a.length then ended false second b.length ""
  else
    match x, y with
    | none, none => return ()
    | none, some _ => ended isSilent first count lineEnd
    | some _, none => ended isSilent second count lineEnd
    | some x, some y =>
      Work.setStatus 1
      if !isSilent then
        let unit := if usage.has 'b' then "byte" else "char"
        let bytes := if usage.has 'b'
          then " is " ++ octalByte x ++ " " ++ markedByte x ++ " " ++ octalByte y ++ " " ++
            markedByte y
          else ""
        Work.say (first ++ " " ++ second ++ " differ: " ++ unit ++ " " ++ toString (count + 1) ++
          ", line " ++ toString (lines + 1) ++ bytes ++ "\n")
where
  ended (isSilent : Bool) (path : String) (count : Nat) (line : String) : Work Unit := do
    Work.setStatus 1
    if !isSilent then
      let place := if count = 0 then " which is empty" else " after byte " ++ toString count ++ line
      Work.write true (Octets.bytes ("cmp: EOF on " ++ path ++ place ++ "\n"))

end BoardDebug.Build.Tool
