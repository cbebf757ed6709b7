import BoardDebug.Build.Tool.Usage

namespace BoardDebug.Build.Tool

/-- How `cat` shows what it writes. -/
structure Showing where
  ends : Bool
  marks : Bool
  tabs : Bool
  numbers : Bool
  /-- Lines that are empty have no number. -/
  sparesEmpty : Bool
  squeezes : Bool

/-- How far a text has been shown: the number of its last line, and how many ends of lines came one
after the other; none came if that is below zero. -/
structure Shown where
  line : Nat := 0
  ends : Int := 0

namespace Showing

/-- A byte that cannot be printed, with marks that can. -/
def marked (byte : UInt8) : Bytes :=
  let low := if byte < 128 then byte else byte - 128
  let inner : Bytes := if low < 32 then [94, low + 64] else if low = 127 then [94, 63] else [low]
  if byte < 128 then inner else [77, 45] ++ inner

def numbered (line : Nat) : Bytes :=
  let digits := toString line
  Octets.bytes (String.ofList (List.replicate (6 - digits.length) ' ') ++ digits ++ "\t")

/-- What is written for the next byte; `next` is the one behind it. -/
def step (how : Showing) (shown : Shown) (byte : UInt8) (next : Option UInt8) : Bytes × Shown :=
  if byte = 10 then
    let ends := shown.ends + 1
    if 2 ≤ ends ∧ how.squeezes then ([], { shown with ends := 2 })
    else
      let isNumbered := 0 < ends && how.numbers && !how.sparesEmpty
      let line := if isNumbered then shown.line + 1 else shown.line
      ((if isNumbered then numbered line else []) ++ (if how.ends then [36, 10] else [10]),
        ⟨line, min 2 ends⟩)
  else
    let isNumbered := 0 ≤ shown.ends && how.numbers
    let line := if isNumbered then shown.line + 1 else shown.line
    let written :=
      if byte = 9 then (if how.tabs then [94, 73] else [9])
      else if byte = 13 ∧ how.ends ∧ next = some 10 then [94, 77]
      else if how.marks then marked byte
      else [byte]
    ((if isNumbered then numbered line else []) ++ written, ⟨line, -1⟩)

def go (how : Showing) : Shown → Bytes → List Bytes → Bytes × Shown
  | shown, [], written => (written.reverse.flatten, shown)
  | shown, byte :: rest, written =>
    let (bytes, shown) := how.step shown byte rest.head?
    go how shown rest (bytes :: written)

end Showing

def catManual : Manual where
  tool := "cat"
  letters := "AbeEnstTuv"
  words := [("show-all", .nothing, 'A'), ("number-nonblank", .nothing, 'b'),
    ("show-ends", .nothing, 'E'), ("number", .nothing, 'n'), ("squeeze-blank", .nothing, 's'),
    ("show-tabs", .nothing, 'T'), ("show-nonprinting", .nothing, 'v')]

/-- Writes files one after the other. -/
def cat (arguments : List String) : Work Unit := do
  let usage ← catManual.usage arguments
  let how : Showing :=
    { ends := usage.hasAny "AeE"
      marks := usage.hasAny "Aetv"
      tabs := usage.hasAny "AtT"
      numbers := usage.hasAny "nb"
      sparesEmpty := usage.has 'b'
      squeezes := usage.has 's' }
  let isPlain := usage.given.all fun (c, _) => c == 'u'
  let paths := if usage.operands.isEmpty then ["-"] else usage.operands
  let _ ← paths.foldlM
    (fun (state : Shown) path => do
      match ← Work.contents path with
      | .error fault =>
        Work.complain ("cat: " ++ shown path ++ ": " ++ reason fault)
        return state
      | .ok bytes =>
        let (written, state) := if isPlain then (bytes, state) else how.go state bytes []
        Work.print written
        return state)
    {}

/-- Writes files with their lines in the opposite order. -/
def tac (arguments : List String) : Work Unit := do
  let manual : Manual := ⟨"tac", "brs:",
    [("before", .nothing, 'b'), ("regex", .nothing, 'r'), ("separator", .text, 's')], false, 1⟩
  let usage ← manual.usage arguments
  onContents
    (fun path fault =>
      if path = "-" then
        "tac: 'standard input': read error: " ++
          (if fault = .isDirectory then "Invalid argument" else reason fault)
      else if fault = .isDirectory then "tac: " ++ shown path ++ ": read error: Is a directory"
      else "tac: failed to open " ++ quoted path ++ " for reading: " ++ reason fault)
    (fun _ bytes => do
      let (lines, isEnded) := splitLines 10 bytes
      let ended := lines.map (· ++ [10])
      let pieces := if isEnded then ended else ended.dropLast ++ [lines.getLastD []]
      Work.print pieces.reverse.flatten)
    usage.operands

/-- Writes files with the bytes of each line in the opposite order. -/
def rev (arguments : List String) : Work Unit := do
  let usage ← (⟨"rev", "", [], false, 1⟩ : Manual).usage arguments
  onContents (fun path fault => "rev: cannot open " ++ path ++ ": " ++ reason fault)
    (fun _ bytes => do
      let (lines, isEnded) := splitLines 10 bytes
      Work.print (joinLines 10 (lines.map List.reverse) isEnded))
    usage.operands

/-- Writes what is there to be read, and puts it into files too. -/
def tee (arguments : List String) : Work Unit := do
  let manual : Manual := ⟨"tee", "aip",
    [("append", .nothing, 'a'), ("ignore-interrupts", .nothing, 'i'),
      ("output-error", .perhaps, 'p')], false, 1⟩
  let usage ← manual.usage arguments
  let input ← Work.takeInputOr fun fault => "tee: read error: " ++ reason fault
  Work.print input
  usage.operands.forM fun path => do
    let old := ((← Work.files).contents path).toOption.getD []
    let before := if usage.has 'a' then old else []
    match ← Work.store path (before ++ input) with
    | .ok () => return ()
    | .error fault => Work.complain ("tee: " ++ shown path ++ ": " ++ reason fault)

/-- How `nl` numbers lines. -/
structure Numbering where
  /-- The lines that get a number: all, those that are not empty, or none. -/
  kind : String
  start : Int
  step : Int
  width : Nat
  style : String
  separator : String

def Numbering.number (n : Numbering) (value : Int) : String :=
  let digits := toString value
  let filler (c : Char) := String.ofList (List.replicate (n.width - digits.length) c)
  match n.style with
  | "ln" => digits ++ filler ' '
  | "rz" => filler '0' ++ digits
  | _ => filler ' ' ++ digits

/-- Writes files with numbers in front of their lines. -/
def nl (arguments : List String) : Work Unit := do
  let manual : Manual := ⟨"nl", "b:d:f:h:i:l:n:ps:v:w:",
    [("body-numbering", .text, 'b'), ("line-increment", .text, 'i'),
      ("number-format", .text, 'n'), ("number-separator", .text, 's'),
      ("starting-line-number", .text, 'v'), ("number-width", .text, 'w')], false, 1⟩
  let usage ← manual.usage arguments
  let number (letter : Char) (usual : Int) : Int :=
    ((usage.text? letter).bind String.toInt?).getD usual
  let n : Numbering :=
    { kind := (usage.text? 'b').getD "t"
      start := number 'v' 1
      step := number 'i' 1
      width := (number 'w' 6).toNat
      style := (usage.text? 'n').getD "rn"
      separator := (usage.text? 's').getD "\t" }
  let blank := String.ofList (List.replicate (n.width + n.separator.length) ' ')
  let paths := if usage.operands.isEmpty then ["-"] else usage.operands
  let _ ← paths.foldlM
    (fun value path => do
      match ← Work.contents path with
      | .error fault =>
        Work.complain ("nl: " ++ shown path ++ ": " ++ reason fault)
        return value
      | .ok bytes =>
        let (lines, _) := splitLines 10 bytes
        lines.foldlM
          (fun value line => do
            let counts := n.kind = "a" || n.kind = "t" && !line.isEmpty
            let start := if counts then n.number value ++ n.separator else blank
            Work.print (Octets.bytes start ++ line ++ [10])
            return if counts then value + n.step else value)
          value)
    n.start

end BoardDebug.Build.Tool
