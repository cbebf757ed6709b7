import BoardDebug.Build.Tool.Usage

namespace BoardDebug.Build.Tool

/-- What is counted in bytes: lines, words, bytes, and the columns of the longest line. -/
structure Counts where
  lines : Nat := 0
  words : Nat := 0
  bytes : Nat := 0
  columns : Nat := 0

namespace Counts

def isGap (byte : UInt8) : Bool :=
  byte == 32 || 9 ≤ byte && byte ≤ 13

/-- The columns that a line takes, up to a place in it. -/
def columnsOf (line : Bytes) : Nat × Nat :=
  line.foldl
    (fun (most, column) (byte : UInt8) =>
      let column :=
        if byte = 9 then (column / 8 + 1) * 8
        else if byte = 12 ∨ byte = 13 then 0
        else if 32 ≤ byte ∧ byte < 127 then column + 1
        else column
      (max most column, column))
    (0, 0)

def of (bytes : Bytes) : Counts where
  lines := bytes.count 10
  words := ((bytes.splitOnP isGap).filter (!·.isEmpty)).length
  bytes := bytes.length
  columns := ((bytes.splitOn 10).map fun line => (columnsOf line).1).foldl max 0

def join (a b : Counts) : Counts :=
  ⟨a.lines + b.lines, a.words + b.words, a.bytes + b.bytes, max a.columns b.columns⟩

/-- The counts that are asked for by letters, each as wide as is said. -/
def line (usage : Usage) (width : Nat) (name : String) (counts : Counts) : String :=
  let asksAll := !usage.hasAny "lwcmL"
  let shown := (if asksAll || usage.has 'l' then [counts.lines] else []) ++
    (if asksAll || usage.has 'w' then [counts.words] else []) ++
    (if usage.has 'm' then [counts.bytes] else []) ++
    (if asksAll || usage.has 'c' then [counts.bytes] else []) ++
    (if usage.has 'L' then [counts.columns] else [])
  let texts := shown.map fun n =>
    let digits := toString n
    String.ofList (List.replicate (width - digits.length) ' ') ++ digits
  " ".intercalate texts ++ name ++ "\n"

end Counts

/-- Counts the lines, words and bytes of files. -/
def wc (arguments : List String) : Work Unit := do
  let manual : Manual := ⟨"wc", "clLmw",
    [("bytes", .nothing, 'c'), ("chars", .nothing, 'm'), ("files0-from", .text, '0'),
      ("lines", .nothing, 'l'), ("max-line-length", .nothing, 'L'), ("total", .text, 't'),
      ("words", .nothing, 'w')], false, 1⟩
  let usage ← manual.usage arguments
  let paths := if usage.operands.isEmpty then ["-"] else usage.operands
  let asked := ("lwcmL".toList.filter usage.has).length
  let done ← get
  let isLoose (path : String) : Bool :=
    if path = "-" then done.fault.elim (!done.isFile) (· == .isDirectory)
    else
      match done.files.find path with
      | .ok (_, ⟨.file _, _, _⟩) => false
      | .ok _ => true
      | .error _ => false
  let sizes := paths.map fun path =>
    if path = "-" then done.input.length
    else ((done.files.contents path).toOption.getD []).length
  let digits := (toString (sizes.foldl (· + ·) 0)).length
  let totals := (usage.text? 't').getD "auto"
  let width := if totals = "only" ∨ paths.length = 1 ∧ asked = 1 then 1
    else if paths.any isLoose then max 7 digits
    else digits
  let total ← paths.foldlM
    (fun total path => do
      if path = "" then
        Work.complain "wc: invalid zero-length file name"
        return total
      else
        let tell (counts : Counts) : Work Unit := do
          let name := if usage.operands.isEmpty then "" else " " ++ shown path
          if totals ≠ "only" then Work.say (counts.line usage width name)
        match ← Work.contents path with
        | .ok bytes =>
          let counts := Counts.of bytes
          tell counts
          return total.join counts
        | .error fault =>
          let what := if usage.operands.isEmpty then "'standard input'" else shown path
          Work.complain ("wc: " ++ what ++ ": " ++ reason fault)
          if fault = .isDirectory ∨ path = "-" then tell {}
          return total)
    ({} : Counts)
  let isTotal := match totals with
    | "always" => true
    | "only" => true
    | "never" => false
    | _ => 1 < paths.length
  if isTotal then
    Work.say (total.line usage width (if totals = "only" then "" else " total"))

end BoardDebug.Build.Tool
