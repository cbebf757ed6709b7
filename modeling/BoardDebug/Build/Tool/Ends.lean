import BoardDebug.Build.Tool.Usage

namespace BoardDebug.Build.Tool

/-- How much of a text is asked for. -/
structure Portion where
  isBytes : Bool := false
  count : Nat := 10
  /-- The count is from the other end. -/
  isTurned : Bool := false

namespace Portion

/-- The part of a list at its beginning, or at its end. -/
def cut {α : Type} (portion : Portion) (isEnd : Bool) (text : List α) : List α :=
  match isEnd, portion.isTurned with
  | false, false => text.take portion.count
  | false, true => text.take (text.length - portion.count)
  | true, false => text.drop (text.length - portion.count)
  | true, true => text.drop (portion.count - 1)

/-- The lines of bytes, each with its end. -/
def lines (ending : UInt8) (bytes : Bytes) : List Bytes :=
  let (lines, isEnded) := splitLines ending bytes
  let ended := lines.map (· ++ [ending])
  if isEnded then ended else ended.dropLast ++ [lines.getLastD []]

/-- The part of bytes that is asked for. -/
def of (portion : Portion) (isEnd : Bool) (ending : UInt8) (bytes : Bytes) : Bytes :=
  if portion.isBytes then portion.cut isEnd bytes
  else (portion.cut isEnd (lines ending bytes)).flatten

/-- A count of bytes or lines; `turn` is the sign of a count from the other end. -/
def counted (tool : String) (turn : Char) (isBytes : Bool) (text : String) : Work Portion := do
  match amount? (Text.dropSign text.toList) with
  | some count => return ⟨isBytes, count, text.toList.head? = some turn⟩
  | none =>
    let unit := if isBytes then "bytes" else "lines"
    Work.complain (tool ++ ": invalid number of " ++ unit ++ ": " ++ quoted text)
    Work.quit 1

end Portion

/-- Options for a count without a letter in front of them, as options with one. -/
def spellCount (signs : List Char) : List String → List String
  | [] => []
  | word :: rest =>
    match word.toList with
    | sign :: c :: text =>
      if signs.contains sign ∧ c.isDigit then
        let (digits, letters) := (c :: text).span Char.isDigit
        let count := String.ofList (if sign = '+' then sign :: digits else digits)
        let isBytes := letters.contains 'c'
        let others := letters.filter fun l => l == 'q' || l == 'v'
        let options := others.map fun l => String.ofList ['-', l]
        (if isBytes then "-c" else "-n") :: count :: options ++ rest
      else word :: rest
    | _ => word :: rest

/-- Writes the beginnings of files, or their ends. -/
def ends (tool : String) (turn : Char) (isEnd : Bool) (arguments : List String) : Work Unit := do
  let manual : Manual := ⟨tool, "c:n:qvzfFs:",
    [("bytes", .text, 'c'), ("lines", .text, 'n'), ("quiet", .nothing, 'q'),
      ("silent", .nothing, 'q'), ("verbose", .nothing, 'v'), ("zero-terminated", .nothing, 'z')],
    false, 1⟩
  let signs := if isEnd ∧ arguments.length ≤ 2 then ['-', '+'] else ['-']
  let usage ← manual.usage (spellCount signs arguments)
  let portions ← (usage.given.filter fun (c, _) => c = 'c' || c = 'n').mapM fun (c, text) =>
    Portion.counted tool turn (c == 'c') text
  let portion := portions.getLastD {}
  let ending : UInt8 := if usage.has 'z' then 0 else 10
  let isTitled : Bool := match usage.lastOf? "qv" with
    | some c => c == 'v'
    | none => 1 < usage.operands.length
  let paths := if usage.operands.isEmpty then ["-"] else usage.operands
  let _ ← paths.foldlM
    (fun isFirst path => do
      let title (name : String) : Work Unit := do
        if isTitled then
          Work.say ((if isFirst then "" else "\n") ++ "==> " ++ name ++ " <==\n")
      if path = "-" then
        title "standard input"
        Work.tryInput fun fault =>
          let what := if isEnd ∧ fault ≠ .isDirectory then "cannot fstat" else "error reading"
          tool ++ ": " ++ what ++ " 'standard input': " ++ reason fault
        let done ← get
        let part := portion.of isEnd ending done.input
        Work.print part
        let stays := !isEnd && !portion.isTurned && (done.isFile || portion.isBytes)
        let left := if stays then done.input.drop part.length else []
        modify fun done => { done with input := left }
        return false
      else
        match ← Work.contents path with
        | .ok bytes =>
          title path
          Work.print (portion.of isEnd ending bytes)
          return false
        | .error .isDirectory =>
          title path
          Work.complain (tool ++ ": error reading " ++ inQuotes path ++ ": Is a directory")
          return false
        | .error fault =>
          Work.complain
            (tool ++ ": cannot open " ++ inQuotes path ++ " for reading: " ++ reason fault)
          return isFirst)
    true

end BoardDebug.Build.Tool
