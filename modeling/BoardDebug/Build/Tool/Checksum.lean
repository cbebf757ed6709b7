import BoardDebug.Build.Digest

namespace BoardDebug.Build.Tool

/-- A program that writes digests of files, or compares them with what is written. -/
structure Checksum where
  tool : String
  /-- The name of the digest. -/
  name : String
  digest : Bytes → Bytes
  /-- How many digits spell a digest. -/
  digits : Nat

namespace Checksum

/-- The programs of this kind. -/
def all : List Checksum :=
  [⟨"md5sum", "MD5", Digest.md5, 32⟩, ⟨"sha1sum", "SHA1", Digest.sha1, 40⟩,
    ⟨"sha224sum", "SHA224", Digest.sha224, 56⟩, ⟨"sha256sum", "SHA256", Digest.sha256, 64⟩,
    ⟨"sha384sum", "SHA384", Digest.sha384, 96⟩, ⟨"sha512sum", "SHA512", Digest.sha512, 128⟩]

def spell (checksum : Checksum) (bytes : Bytes) : String :=
  String.ofList ((checksum.digest bytes).flatMap fun byte => Text.hexDigits 2 byte.toNat)

/-- A path with backslashes in front of what would end a line, and whether there are any. -/
def escaped (path : String) : String × Bool :=
  let spelled := path.toList.flatMap fun c =>
    if c = '\\' then ['\\', '\\']
    else if c = '\n' then ['\\', 'n']
    else if c = '\r' then ['\\', 'r']
    else [c]
  (String.ofList spelled, spelled.length != path.length)

/-- The path that is meant by one with backslashes. -/
def unescaped? : List Char → Option (List Char)
  | [] => some []
  | '\\' :: 'n' :: rest => (unescaped? rest).map ('\n' :: ·)
  | '\\' :: 'r' :: rest => (unescaped? rest).map ('\r' :: ·)
  | '\\' :: '\\' :: rest => (unescaped? rest).map ('\\' :: ·)
  | '\\' :: _ => none
  | c :: rest => (unescaped? rest).map (c :: ·)

/-- The line that tells a digest. -/
def line (checksum : Checksum) (usage : Usage) (path spelled : String) : String :=
  let (name, isEscaped) := if usage.has 'z' then (path, false) else escaped path
  let front := if isEscaped then "\\" else ""
  let ending := if usage.has 'z' then "\x00" else "\n"
  if usage.has 'T' then front ++ checksum.name ++ " (" ++ name ++ ") = " ++ spelled ++ ending
  else
    let sign := if usage.lastOf? "bt" = some 'b' then "*" else " "
    front ++ spelled ++ " " ++ sign ++ name ++ ending

/-- The path and the digest that a line tells. -/
def readLine? (checksum : Checksum) (text : List Char) : Option (String × String) := do
  let text := text.dropWhile fun c => c = ' ' ∨ c = '\t'
  let (isEscaped, text) := match text with
    | '\\' :: rest => (true, rest)
    | text => (false, text)
  let front := (checksum.name ++ " (").toList
  let (spelled, path) ←
    if front.isPrefixOf text then
      let inner := (text.drop front.length).reverse
      let spelled := inner.takeWhile (Text.hexDigit? · |>.isSome)
      let behind := inner.drop spelled.length
      if behind.take 4 = " = )".toList then some (spelled.reverse, (behind.drop 4).reverse)
      else none
    else
      let (spelled, rest) := text.span (Text.hexDigit? · |>.isSome)
      match rest with
      | ' ' :: sign :: path => if sign = ' ' ∨ sign = '*' then some (spelled, path) else none
      | _ => none
  let path ← if isEscaped then unescaped? path else some path
  if spelled.length ≠ checksum.digits ∨ path.isEmpty then none
  else some (String.ofList path, String.ofList (spelled.map Char.toLower))

/-- How many lines were compared, and with what result. -/
structure Tally where
  read : Nat := 0
  misformed : Nat := 0
  unread : Nat := 0
  wrong : Nat := 0
  right : Nat := 0

def counted (count : Nat) (one many : String) : String :=
  toString count ++ " " ++ (if count = 1 then one else many)

/-- Compares a file with a digest. -/
def compareOne (checksum : Checksum) (usage : Usage) (tally : Tally) (path wanted : String) :
    Work Tally := do
  let (name, isEscaped) := escaped path
  let tell (result : String) : Work Unit :=
    if usage.has 'S' then return ()
    else Work.say ((if isEscaped then "\\" else "") ++ name ++ ": " ++ result ++ "\n")
  match ← Work.contents path with
  | .error .missing =>
    if usage.has 'I' then return tally
    Work.complain (checksum.tool ++ ": " ++ shown path ++ ": " ++ reason .missing)
    tell "FAILED open or read"
    return { tally with unread := tally.unread + 1 }
  | .error fault =>
    Work.complain (checksum.tool ++ ": " ++ shown path ++ ": " ++ reason fault)
    tell "FAILED open or read"
    return { tally with unread := tally.unread + 1 }
  | .ok bytes =>
    if checksum.spell bytes = wanted then
      if !usage.has 'Q' then tell "OK"
      return { tally with right := tally.right + 1 }
    else
      tell "FAILED"
      return { tally with wrong := tally.wrong + 1 }

/-- Compares files with the digests that a file tells. -/
def compare (checksum : Checksum) (usage : Usage) (path : String) : Work Unit := do
  match ← Work.contents path with
  | .error fault => Work.complain (checksum.tool ++ ": " ++ shown path ++ ": " ++ reason fault)
  | .ok bytes =>
    let before := (← get).status
    let source := if path = "-" then "'standard input'" else shown path
    let (lines, _) := splitLines 10 bytes
    let numbered := (List.range lines.length).zip (lines.map Octets.ofBytes)
    let told := numbered.filter fun (_, line) => line.head? ≠ some '#' ∧ !line.isEmpty
    let tally ← told.foldlM
      (fun (tally : Tally) (number, line) => do
        match checksum.readLine? line with
        | some (path, wanted) =>
          checksum.compareOne usage { tally with read := tally.read + 1 } path wanted
        | none =>
          if usage.has 'w' then
            Work.write true (Octets.bytes (checksum.tool ++ ": " ++ source ++ ": " ++
              toString (number + 1) ++ ": improperly formatted " ++ checksum.name ++
              " checksum line\n"))
          return { tally with misformed := tally.misformed + 1 })
      {}
    let warn (count : Nat) (one many : String) : Work Unit :=
      if count = 0 ∨ usage.has 'S' then return ()
      else Work.write true (Octets.bytes
        (checksum.tool ++ ": WARNING: " ++ counted count one many ++ "\n"))
    if tally.read = 0 then
      Work.complain
        (checksum.tool ++ ": " ++ source ++ ": no properly formatted checksum lines found")
    else
      warn tally.misformed "line is improperly formatted" "lines are improperly formatted"
      warn tally.unread "listed file could not be read" "listed files could not be read"
      warn tally.wrong "computed checksum did NOT match" "computed checksums did NOT match"
      let isNothing := usage.has 'I' && tally.right + tally.wrong == 0
      if isNothing ∧ !usage.has 'S' then
        Work.complain (checksum.tool ++ ": " ++ source ++ ": no file was verified")
      let isBad := 0 < tally.unread + tally.wrong ∨ isNothing ∨
        (0 < tally.misformed ∧ usage.has 'X')
      if isBad then Work.setStatus 1 else modify fun done => { done with status := before }

/-- The options that only count where digests are compared. -/
def whenComparing : List (Char × String) :=
  [('I', "ignore-missing"), ('S', "status"), ('w', "warn"), ('Q', "quiet"), ('X', "strict")]

/-- Writes the digests of files, or compares them. -/
def run (checksum : Checksum) (arguments : List String) : Work Unit := do
  let manual : Manual := ⟨checksum.tool, "bctwz",
    [("binary", .nothing, 'b'), ("check", .nothing, 'c'), ("ignore-missing", .nothing, 'I'),
      ("quiet", .nothing, 'Q'), ("status", .nothing, 'S'), ("strict", .nothing, 'X'),
      ("tag", .nothing, 'T'), ("text", .nothing, 't'), ("warn", .nothing, 'w'),
      ("zero", .nothing, 'z')], false, 1⟩
  let usage ← manual.usage arguments
  if usage.has 'T' ∧ usage.has 'c' then
    misuse checksum.tool "the --tag option is meaningless when verifying checksums" 1
  if usage.has 'z' ∧ usage.has 'c' then
    misuse checksum.tool "the --zero option is not supported when verifying checksums" 1
  if usage.lastOf? "bt" ≠ none ∧ usage.has 'c' then
    misuse checksum.tool
      "the --binary and --text options are meaningless when verifying checksums" 1
  if !usage.has 'c' then
    if let some (_, word) := whenComparing.find? fun (c, _) => usage.has c then
      misuse checksum.tool
        ("the --" ++ word ++ " option is meaningful only when verifying checksums") 1
  let paths := if usage.operands.isEmpty then ["-"] else usage.operands
  if usage.has 'c' then paths.forM (checksum.compare usage)
  else
    onContents
      (fun path fault => checksum.tool ++ ": " ++ shown path ++ ": " ++ reason fault)
      (fun path bytes => Work.say (checksum.line usage path (checksum.spell bytes)))
      paths

end Checksum

/-- Writes a sum of each file, with its size; `tell` puts both together. -/
def sums (manual : Manual) (tell : Usage → Bytes → String) (arguments : List String) :
    Work Unit := do
  let usage ← manual.usage arguments
  onContents (fun path fault => manual.tool ++ ": " ++ shown path ++ ": " ++ reason fault)
    (fun path bytes =>
      let name := if usage.operands.isEmpty then "" else " " ++ path
      Work.say (tell usage bytes ++ name ++ "\n"))
    usage.operands

/-- Writes the remainders of files. -/
def cksum (arguments : List String) : Work Unit :=
  sums ⟨"cksum", "", [], false, 1⟩
    (fun _ bytes => toString (Digest.crc bytes) ++ " " ++ toString bytes.length) arguments

/-- Writes sums of files in one of two old ways. -/
def sum (arguments : List String) : Work Unit :=
  sums ⟨"sum", "rs", [("sysv", .nothing, 's')], false, 1⟩
    (fun usage bytes =>
      let blocks (size : Nat) : Nat := (bytes.length + size - 1) / size
      if usage.lastOf? "rs" = some 's' then
        toString (Digest.foldedSum bytes) ++ " " ++ toString (blocks 512)
      else
        let size := toString (blocks 1024)
        let digits := Nat.toDigits 10 (Digest.turningSum bytes)
        String.ofList (Text.zeroFill 5 digits ++ List.replicate (6 - size.length) ' ') ++ size)
    arguments

end BoardDebug.Build.Tool
