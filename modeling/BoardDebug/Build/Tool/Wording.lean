import BoardDebug.Build.Finished
import BoardDebug.Text.Show

namespace BoardDebug.Build.Tool

/-- The wording of a fault in a complaint. -/
def reason : FileFault → String
  | .missing => "No such file or directory"
  | .isDirectory => "Is a directory"
  | .notDirectory => "Not a directory"
  | .denied => "Permission denied"
  | .longName => "File name too long"
  | .loop => "Too many levels of symbolic links"
  | .notProgram => "Exec format error"
  | fault => fault.message

def isPrintable (c : Char) : Bool :=
  ' ' ≤ c && c ≤ '~'

/-- How a character that cannot be printed is spelled behind a backslash. -/
def spelled (c : Char) : List Char :=
  match c.toNat with
  | 7 => ['a']
  | 8 => ['b']
  | 9 => ['t']
  | 10 => ['n']
  | 11 => ['v']
  | 12 => ['f']
  | 13 => ['r']
  | n => Text.zeroFill 3 (Nat.toDigits 8 n)

/-- A text in single quotes, with backslashes in front of what they cannot hold. -/
def quoted (text : String) : String :=
  let inner := text.toList.flatMap fun c =>
    if c = '\\' ∨ c = '\x27' then ['\\', c]
    else if isPrintable c then [c]
    else '\\' :: spelled c
  String.ofList ('\x27' :: inner ++ ['\x27'])

/-- A text in single quotes as a shell reads it. `isOpen` says whether such quotes are open around
characters that cannot be printed; the result says so of the end. -/
def shellQuotes (isOpen : Bool) : List Char → List Char × Bool
  | [] => ([], isOpen)
  | c :: rest =>
    if c = '\x27' then
      let (others, isOpen) := shellQuotes false rest
      ("'\\''".toList ++ others, isOpen)
    else if isPrintable c then
      let (others, isEnd) := shellQuotes false rest
      ((if isOpen then ['\x27', '\x27', c] else [c]) ++ others, isEnd)
    else
      let (others, isEnd) := shellQuotes true rest
      ((if isOpen then [] else "'$'".toList) ++ '\\' :: spelled c ++ others, isEnd)

/-- A path in quotes in which a shell would take it as one word. -/
def inQuotes (path : String) : String :=
  let text := path.toList
  let isPlain (c : Char) : Bool :=
    c.isAlphanum || "%+,-./:]_@ '".toList.contains c
  let startsPlain := text.head?.any ['#', '~'].contains
  if text.contains '\x27' then
    if (if startsPlain then text.tail else text).all isPlain then "\"" ++ path ++ "\""
    else
      let (_, isOpen) := shellQuotes false text
      "'" ++ String.ofList (shellQuotes isOpen text).1 ++ "'"
  else "'" ++ String.ofList (shellQuotes false text).1 ++ "'"

/-- A path as it stands in a complaint: in quotes if a shell would not take it as one word. -/
def shown (path : String) : String :=
  let isPlain (c : Char) : Bool :=
    c.isAlphanum || "#%+,-./@]_\x7b\x7d~".toList.contains c
  let isStart (c : Char) : Bool := c != '#' && c != '~'
  let isBrace := path = "\x7b" || path = "\x7d"
  if path ≠ "" ∧ !isBrace ∧ path.toList.all isPlain ∧ path.toList.head?.all isStart then path
  else inQuotes path

/-- A complaint about the arguments of a tool, which ends it. -/
def misuse {α : Type} (name text : String) (status : Nat) : Work α := do
  Work.complain (name ++ ": " ++ text)
  Work.write true (Octets.bytes ("Try '" ++ name ++ " --help' for more information.\n"))
  Work.quit status

/-- Does something with the bytes of each file, or with what is there to be read. -/
def onContents (refuse : String → FileFault → String) (act : String → Bytes → Work Unit)
    (paths : List String) : Work Unit :=
  (if paths.isEmpty then ["-"] else paths).forM fun path => do
    match ← Work.contents path with
    | .ok bytes => act path bytes
    | .error fault => Work.complain (refuse path fault)

/-- The lines of bytes, without the ends of lines, and whether the last one has an end. -/
def splitLines (ending : UInt8) (bytes : Bytes) : List Bytes × Bool :=
  let pieces := bytes.splitOn ending
  if bytes.isEmpty then ([], true)
  else if bytes.getLast? = some ending then (pieces.dropLast, true)
  else (pieces, false)

/-- Writes lines with their ends; the last one may lack its end. -/
def joinLines (ending : UInt8) (lines : List Bytes) (isEnded : Bool) : Bytes :=
  let all := lines.flatMap fun line => line ++ [ending]
  if isEnded then all else all.dropLast

end BoardDebug.Build.Tool
