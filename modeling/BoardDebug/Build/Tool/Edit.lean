import BoardDebug.Build.Tool.Edit.Pass

namespace BoardDebug.Build.Tool

open Edit

def sedManual : Manual where
  tool := "sed"
  letters := "bsnrzuEe:f:l:i::V:h"
  words := [("binary", .nothing, 'b'), ("debug", .nothing, 'D'), ("expression", .text, 'e'),
    ("file", .text, 'f'), ("follow-symlinks", .nothing, 'F'), ("in-place", .perhaps, 'i'),
    ("line-length", .text, 'l'), ("null-data", .nothing, 'z'), ("posix", .nothing, 'p'),
    ("quiet", .nothing, 'n'), ("regexp-extended", .nothing, 'E'), ("sandbox", .nothing, 'S'),
    ("separate", .nothing, 's'), ("silent", .nothing, 'n'), ("unbuffered", .nothing, 'u'),
    ("zero-terminated", .nothing, 'z')]

/-- The most lines that are edited. -/
def maxLines : Nat := 100000000

/-- Edits a text line by line as a script says. -/
def sed (arguments : List String) : Work Unit := do
  let usage ← sedManual.usage arguments
  let given ← (usage.given.filter fun (c, _) => c = 'e' || c = 'f').mapM fun (c, text) => do
    if c = 'e' then return Fragment.mk none text.toList
    else
      match ← Work.contents text with
      | .ok bytes =>
        let (lines, _) := splitLines 10 bytes
        return Fragment.mk (some text) (['\n'].intercalate (lines.map Octets.ofBytes))
      | .error fault =>
        Work.complain ("sed: couldn't open file " ++ text ++ ": " ++ reason fault)
        Work.quit 4
  let (fragments, paths) : List Fragment × List String := match given, usage.operands with
    | [], script :: paths => ([⟨none, script.toList⟩], paths)
    | given, paths => (given, paths)
  if fragments.isEmpty then
    Work.complain
      "Usage: sed [OPTION]... \x7bscript-only-if-no-other-script\x7d [input-file]...\n"
    Work.quit 1
  match commandsOf? (usage.hasAny "Er") fragments with
  | .error text =>
    Work.complain ("sed: " ++ text)
    Work.quit 1
  | .ok commands =>
    if let some name := (targets commands).find? fun name => (labelPlace? commands name).isNone then
      Work.complain ("sed: can't find label for jump to \x60" ++ name ++ "'")
      Work.quit 4
    (written commands).forM fun path => do
      if path ≠ "/dev/stdout" ∧ path ≠ "/dev/stderr" then
        match ← Work.store path [] with
        | .ok () => return ()
        | .error fault =>
          Work.complain ("sed: couldn't open file " ++ path ++ ": " ++ reason fault)
          Work.quit 4
    let inPlace := usage.text? 'i'
    let startsSilent := match fragments.head?.map (·.text) with
      | some ('#' :: 'n' :: rest) => rest.head?.all (· == '\n')
      | _ => false
    let m : Manner :=
      { commands
        isSilent := usage.has 'n' || startsSilent
        inPlace
        width := ((usage.text? 'l').bind String.toNat?).getD 70
        ending := if usage.has 'z' then '\x00' else '\n' }
    if inPlace.isSome ∧ paths.isEmpty then
      Work.complain "sed: no input files"
      Work.quit 4
    let all := if paths.isEmpty then ["-"] else paths
    let edit : Editing (Option Nat) :=
      if usage.has 's' ∨ inPlace.isSome then Editing.eachFile m maxLines all
      else do
        modify fun p => { p with paths := all, ranges := Editing.opened commands }
        let status ← Editing.lines m maxLines true
        Editing.flush m
        return status
    let (status, pass) ← edit.run {}
    Work.print pass.written.reverse.flatten
    match status.getD 0 with
    | 0 => Work.setStatus (if pass.isWrong then 2 else 0)
    | status => Work.setStatus status

end BoardDebug.Build.Tool
