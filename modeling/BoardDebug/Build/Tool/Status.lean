import BoardDebug.Build.Tool.Date
import BoardDebug.Build.Tool.Mode

namespace BoardDebug.Build.Tool

/-- What kind of a file a node is, in words. -/
def kindWords : Body → String
  | .directory => "directory"
  | .link _ => "symbolic link"
  | .device _ => "character special file"
  | .file [] => "regular empty file"
  | _ => "regular file"

/-- The letter in front of the rights of a node. -/
def kindLetter : Body → String
  | .directory => "d"
  | .link _ => "l"
  | .device _ => "c"
  | _ => "-"

def sizeOf : Body → Nat
  | .file bytes => bytes.length
  | .link path => path.length
  | .directory => 4096
  | _ => 0

/-- In how many places a node lies. -/
def linkCount (files : Files) (place : Place) : Nat :=
  match files.body? place with
  | some .directory =>
    let isDirectory (name : String) : Bool := files.body? (place ++ [name]) == some .directory
    2 + ((files.names place).filter isDirectory).length
  | _ =>
    let number? := files.number? place
    (files.entries.filter fun (_, n) => some n = number?).length

/-- What a letter of a format stands for. -/
def statusField (files : Files) (path : String) (place : Place) (node : Node) (letter : Char) :
    String :=
  match letter with
  | 'n' => path
  | 'N' =>
    match node.body with
    | .link target => inQuotes path ++ " -> " ++ inQuotes target
    | _ => inQuotes path
  | 's' => toString (sizeOf node.body)
  | 'a' => String.ofList (Nat.toDigits 8 node.mode)
  | 'A' => kindLetter node.body ++ Mode.letters node.mode
  | 'F' => kindWords node.body
  | 'h' => toString (linkCount files place)
  | 'i' => toString ((files.number? place).getD 0 + 2)
  | 'u' => "0"
  | 'g' => "0"
  | 'U' => "root"
  | 'G' => "root"
  | 'B' => "512"
  | 'b' => toString ((sizeOf node.body + 4095) / 4096 * 8)
  | 'o' => "4096"
  | 'X' => toString (node.time.fdiv Date.second)
  | 'Y' => toString (node.time.fdiv Date.second)
  | 'Z' => toString (node.time.fdiv Date.second)
  | 'W' => "0"
  | 'w' => "-"
  | '%' => "%"
  | _ =>
    if ['x', 'y', 'z'].contains letter then
      Date.write node.time "%F %T.%N %z".toList
    else "?"

/-- A format with its fields filled in. -/
def fillStatus (field : Char → String) : List Char → String
  | '%' :: rest => filled 0 rest
  | c :: rest => String.singleton c ++ fillStatus field rest
  | [] => ""
where
  /-- The field behind a percent sign and the width in front of its letter. -/
  filled (width : Nat) : List Char → String
    | [] => "%"
    | c :: rest =>
      match Text.digit? 10 c with
      | some digit => filled (10 * width + digit) rest
      | none =>
        let text := field c
        String.ofList (List.replicate (width - text.length) ' ') ++ text ++ fillStatus field rest

/-- The escapes in a format. -/
def bareFormat : List Char → List Char
  | '\\' :: c :: rest =>
    match c with
    | 'n' => '\n' :: bareFormat rest
    | 't' => '\t' :: bareFormat rest
    | '0' => '\x00' :: bareFormat rest
    | '\\' => '\\' :: bareFormat rest
    | '"' => '"' :: bareFormat rest
    | c => '\\' :: c :: bareFormat rest
  | c :: rest => c :: bareFormat rest
  | [] => []

/-- Tells about files. -/
def stat (arguments : List String) : Work Unit := do
  let manual : Manual := ⟨"stat", "c:fLt",
    [("dereference", .nothing, 'L'), ("file-system", .nothing, 'f'), ("format", .text, 'c'),
      ("printf", .text, 'p'), ("terse", .nothing, 't')], false, 1⟩
  let usage ← manual.usage arguments
  if usage.operands.isEmpty then misuse "stat" "missing operand" 1
  let format := match usage.text? 'p', usage.text? 'c' with
    | some text, _ => bareFormat text.toList
    | none, some text => text.toList ++ ['\n']
    | none, none =>
      ("  File: %N\n  Size: %s\tBlocks: %b\tIO Block: %o\t%F\nAccess: (%a/%A)\tUid: (%u/%U)\t" ++
        "Gid: (%g/%G)\nModify: %y\n").toList
  usage.operands.forM fun path => do
    let files ← Work.files
    match if usage.has 'L' then files.find path else files.findLink path with
    | .ok (place, node) => Work.say (fillStatus (statusField files path place node) format)
    | .error fault =>
      Work.complain ("stat: cannot statx " ++ inQuotes path ++ ": " ++ reason fault)

/-- Writes a moment as a format says. -/
def date (arguments : List String) : Work Unit := do
  let manual : Manual := ⟨"date", "d:f:I::r:Rs:u",
    [("date", .text, 'd'), ("iso-8601", .perhaps, 'I'), ("reference", .text, 'r'),
      ("rfc-email", .nothing, 'R'), ("universal", .nothing, 'u'), ("utc", .nothing, 'u')],
    false, 1⟩
  let usage ← manual.usage arguments
  let files ← Work.files
  let time ← match usage.text? 'd', usage.text? 'r' with
    | some text, _ =>
      match Date.read? files.time text with
      | some time => pure time
      | none =>
        Work.complain ("date: invalid date " ++ quoted text)
        Work.quit 1
    | none, some path =>
      match files.find path with
      | .ok (_, node) => pure node.time
      | .error fault =>
        Work.complain ("date: " ++ shown path ++ ": " ++ reason fault)
        Work.quit 1
    | none, none => pure files.time
  let format ← match usage.operands with
    | [] => pure (if usage.has 'I' then "%F" else if usage.has 'R' then "%a, %d %b %Y %T %z"
        else "%a %b %e %T %Z %Y")
    | [word] =>
      if word.startsWith "+" then pure (word.drop 1).toString
      else do
        Work.complain ("date: invalid date " ++ quoted word)
        Work.quit 1
    | _ :: extra :: _ => misuse "date" ("extra operand " ++ quoted extra) 1
  Work.say (Date.write time format.toList ++ "\n")

end BoardDebug.Build.Tool
