import BoardDebug.Build.Regex.Reading
import BoardDebug.Build.Shell.Pattern
import BoardDebug.Build.Tool.Usage

namespace BoardDebug.Build.Tool

/-- What is said of the lines of a file in which something is found. -/
inductive Telling where
  | lines
  | count
  /-- The name of the file, if there are such lines or if there are none. -/
  | name (isAbsent : Bool)
  | nothing
deriving DecidableEq

/-- What is looked for in lines, and what is said of it. -/
structure Search where
  regexes : List Regex
  view : Regex.View
  /-- Lines count in which nothing is found. -/
  isTurned : Bool
  telling : Telling
  /-- Only what is found is written, not the lines around it. -/
  isBare : Bool
  most : Option Nat
  /-- How many lines around are written, if that was asked for. -/
  before : Option Nat
  after : Option Nat
  /-- What stands between lines that do not follow each other. -/
  gap : Option String
  hasNames : Bool
  hasNumbers : Bool
  hasOffsets : Bool
  isQuiet : Bool
  /-- How files that are no text are taken: as text, as if nothing were in them, or as such. -/
  binary : String
  /-- What ends a line, and a name. -/
  ending : UInt8
  nameEnding : UInt8
  label : String

namespace Search

/-- A line with its number and the number of bytes before it. -/
structure Line where
  number : Nat
  offset : Nat
  text : List Char

/-- The lines of a text, from a number and an offset on. -/
def linesOf (number offset : Nat) : List Bytes → List Line
  | [] => []
  | line :: rest =>
    ⟨number, offset, Octets.ofBytes line⟩ :: linesOf (number + 1) (offset + line.length + 1) rest

/-- The nearer of two places, and the longer one of two at the same place. -/
def better (a b : Regex.Found) : Regex.Found :=
  if b.start < a.start ∨ (b.start = a.start ∧ a.stop < b.stop) then b else a

/-- What is found first from a place on. -/
def first? (search : Search) (text : List Char) (start : Nat) : Option Regex.Found :=
  let found := search.regexes.filterMap fun regex => regex.find? search.view text start
  match found with
  | [] => none
  | one :: others => some (others.foldl better one)

def isFoundIn (search : Search) (line : Line) : Bool :=
  (search.first? line.text 0).isSome != search.isTurned

/-- All that is found in a line, with its place. -/
def allIn (search : Search) (text : List Char) : Nat → Nat → List (Nat × List Char)
  | 0, _ => []
  | fuel + 1, start =>
    if text.length < start then []
    else
      match search.first? text start with
      | none => []
      | some found =>
        if found.stop = found.start then allIn search text fuel (found.start + 1)
        else (found.start, found.text text 0) :: allIn search text fuel found.stop

/-- How far the lines of a file have been written. -/
structure Progress where
  /-- Whether anything was written before, of this file or another. -/
  isUsed : Bool
  last : Option Nat := none
  /-- The lines before that may have to be written, the latest first. -/
  waiting : List Line := []
  /-- How many more lines are written. -/
  left : Nat := 0
  found : Nat := 0
  written : List Bytes := []

/-- What stands in front of something that is written. -/
def front (search : Search) (name : String) (sign : Char) (number offset : Nat) : Bytes :=
  let mark := Octets.toBytes [sign]
  (if search.hasNames then
      Octets.bytes name ++ (if search.nameEnding = 0 then [0] else mark)
    else []) ++
    (if search.hasNumbers then Octets.bytes (toString number) ++ mark else []) ++
    (if search.hasOffsets then Octets.bytes (toString offset) ++ mark else [])

/-- Writes a line, which may be one around those that are looked for. -/
def Progress.write (search : Search) (name : String) (isContext : Bool) (line : Line)
    (p : Progress) : Progress :=
  let isApart := p.isUsed && p.last != some (line.number - 1) &&
    (search.before.isSome || search.after.isSome)
  let gap := match isApart, search.gap with
    | true, some text => [Octets.bytes (text ++ "\n")]
    | _, _ => []
  let sign := if isContext then '-' else ':'
  let texts :=
    if !search.isBare then
      [search.front name sign line.number line.offset ++ Octets.toBytes line.text ++
        [search.ending]]
    else if isContext ∨ search.isTurned then []
    else
      (search.allIn line.text (line.text.length + 1) 0).map fun (start, text) =>
        search.front name sign line.number (line.offset + start) ++ Octets.toBytes text ++
          [search.ending]
  { p with isUsed := true, last := some line.number, written := p.written ++ gap ++ texts }

/-- Goes on with the next line; the result says whether there is more to do. -/
def step (search : Search) (name : String) (p : Progress) (line : Line) : Progress × Bool :=
  let isFull := search.most.any (· ≤ p.found)
  if !isFull ∧ search.isFoundIn line then
    let p := p.waiting.reverse.foldl (fun p line => p.write search name true line) p
    let p := p.write search name false line
    ({ p with found := p.found + 1, waiting := [], left := search.after.getD 0 }, true)
  else if 0 < p.left then
    let p := p.write search name true line
    ({ p with left := p.left - 1 }, true)
  else if isFull then (p, false)
  else ({ p with waiting := (line :: p.waiting).take (search.before.getD 0) }, true)

def run (search : Search) (name : String) : Progress → List Line → Progress
  | p, [] => p
  | p, line :: rest =>
    match search.step name p line with
    | (p, true) => run search name p rest
    | (p, false) => p

/-- Whether anything was written, whether anything was found, and whether anything was wrong. -/
structure Result where
  isUsed : Bool := false
  isFound : Bool := false
  isWrong : Bool := false

/-- Looks through the bytes of a file. -/
def inBytes (search : Search) (name : String) (bytes : Bytes) (result : Result) :
    Work Result := do
  let isBinary := bytes.contains 0 && search.ending != 0 && search.binary != "text"
  let visible := if isBinary then bytes.map fun byte => if byte = 0 then 10 else byte else bytes
  let (lines, _) := splitLines search.ending visible
  let lines := if isBinary ∧ search.binary = "without-match" then []
    else linesOf 1 0 lines
  let quick := search.telling ≠ .lines || isBinary
  let counted (most : Option Nat) : Nat :=
    let found := lines.filter search.isFoundIn
    (most.map fun n => min n found.length).getD found.length
  match search.telling with
  | .nothing =>
    return { result with isFound := result.isFound || 0 < counted search.most }
  | .count =>
    let count := counted search.most
    let front := if search.hasNames then
        Octets.bytes name ++ (if search.nameEnding = 0 then [0] else [58])
      else []
    Work.print (front ++ Octets.bytes (toString count ++ "\n"))
    return { result with isUsed := true, isFound := result.isFound || 0 < count }
  | .name isAbsent =>
    let isFound := 0 < counted search.most
    if isFound ≠ isAbsent then Work.print (Octets.bytes name ++ [search.nameEnding])
    return { result with isUsed := true, isFound := result.isFound || isFound }
  | .lines =>
    if quick then
      if counted search.most = 0 then return result
      else
        Work.write true (Octets.bytes ("grep: " ++ name ++ ": binary file matches\n"))
        return { result with isFound := true }
    else
      let p := search.run name { isUsed := result.isUsed } lines
      Work.print p.written.flatten
      return { result with isUsed := p.isUsed, isFound := result.isFound || 0 < p.found }

/-- Complains about a file. -/
def refuse (search : Search) (path : String) (fault : FileFault) (result : Result) :
    Work Result := do
  if !search.isQuiet then
    Work.write true (Octets.bytes ("grep: " ++ path ++ ": " ++ reason fault ++ "\n"))
  return { result with isWrong := true }

/-- The files that are looked through. -/
structure Range where
  /-- What is done with directories: they are read, skipped, or gone into. -/
  directories : String
  followsLinks : Bool
  included : List Shell.Pattern
  excluded : List Shell.Pattern
  excludedDirectories : List Shell.Pattern

def nameOf (path : String) : List Char :=
  ((path.toList.reverse.dropWhile (· = '/')).takeWhile (· ≠ '/')).reverse

def Range.takes (range : Range) (path : String) : Bool :=
  let fits (pattern : Shell.Pattern) : Bool :=
    pattern.accepts (nameOf path) || pattern.accepts path.toList
  !range.excluded.any fits && (range.included.isEmpty || range.included.any fits)

/-- Looks through what lies at a path, and in it. -/
def inFile (range : Range) : Nat → (isGiven : Bool) → Search → String → Result → Work Result
  | 0, _, _, _, result => return result
  | fuel + 1, isGiven, search, path, result => do
    let files ← Work.files
    let found := if isGiven ∨ range.followsLinks then files.find path else files.findLink path
    match found with
    | .error fault => search.refuse path fault result
    | .ok (place, node) =>
      match node.body with
      | .directory =>
        if range.directories = "read" then search.refuse path .isDirectory result
        else if range.directories = "skip" then return result
        else if range.excludedDirectories.any (·.accepts (nameOf path)) then return result
        else
          (files.names place).foldlM
            (fun result name =>
              let separator := if path.endsWith "/" then "" else "/"
              inFile range fuel false search (path ++ separator ++ name) result)
            result
      | .link _ => return result
      | .device _ =>
        if range.directories = "recurse" ∧ !isGiven then return result
        else search.inBytes path (Files.bytesOf node.body) result
      | _ =>
        if range.takes path then search.inBytes path (Files.bytesOf node.body) result
        else return result

/-- Looks through files one after the other. -/
def inFiles (search : Search) (range : Range) (paths : List String) : Work Result :=
  paths.foldlM
    (fun result path => do
      let isHere := search.telling = .nothing && result.isFound
      if isHere then return result
      else if path = "-" ∨ Work.isInput path then
        let name := if path = "-" then search.label else path
        match ← Work.contents path with
        | .ok bytes => search.inBytes name bytes result
        | .error fault => refuse search name fault result
      else
        match (← get).channels.find? fun (p, _) => p = path with
        | some (_, bytes) => search.inBytes path bytes result
        | none => inFile range 64 true search path result)
    {}

end Search

def grepManual : Manual where
  tool := "grep"
  letters := "0123456789A:B:C:D:EFGHILPRTUVZabcd:e:f:hilm:noqrsuvwxyz"
  words := [("after-context", .text, 'A'), ("basic-regexp", .nothing, 'G'),
    ("before-context", .text, 'B'), ("binary", .nothing, 'U'), ("binary-files", .text, 'N'),
    ("byte-offset", .nothing, 'b'), ("color", .perhaps, 'k'), ("colour", .perhaps, 'k'),
    ("context", .text, 'C'), ("count", .nothing, 'c'), ("dereference-recursive", .nothing, 'R'),
    ("devices", .text, 'D'), ("directories", .text, 'd'), ("exclude", .text, 'X'),
    ("exclude-dir", .text, 'Y'), ("extended-regexp", .nothing, 'E'), ("file", .text, 'f'),
    ("files-with-matches", .nothing, 'l'), ("files-without-match", .nothing, 'L'),
    ("fixed-regexp", .nothing, 'F'), ("fixed-strings", .nothing, 'F'),
    ("group-separator", .text, 'S'), ("ignore-case", .nothing, 'i'), ("include", .text, 'J'),
    ("initial-tab", .nothing, 'T'), ("invert-match", .nothing, 'v'), ("label", .text, 'K'),
    ("line-buffered", .nothing, 'u'), ("line-number", .nothing, 'n'),
    ("line-regexp", .nothing, 'x'), ("max-count", .text, 'm'), ("no-filename", .nothing, 'h'),
    ("no-group-separator", .nothing, 'M'), ("no-ignore-case", .nothing, 'j'),
    ("no-messages", .nothing, 's'), ("null", .nothing, 'Z'), ("null-data", .nothing, 'z'),
    ("only-matching", .nothing, 'o'), ("perl-regexp", .nothing, 'P'), ("quiet", .nothing, 'q'),
    ("recursive", .nothing, 'r'), ("regexp", .text, 'e'), ("silent", .nothing, 'q'),
    ("text", .nothing, 'a'), ("with-filename", .nothing, 'H'), ("word-regexp", .nothing, 'w')]

/-- The description of a text that stands for itself. -/
def literal (text : List Char) : Regex :=
  text.foldr (fun c rest => .both (.among false [(c, c)]) rest) .empty

/-- Ends a search that cannot be made. -/
def refuseSearch {α : Type} (text : String) : Work α := do
  Work.complain ("grep: " ++ text)
  Work.quit 2

/-- What a pattern describes; it may have to be a whole line or a whole word. -/
def readPattern (letters : Usage) (pattern : List Char) : Work Regex := do
  let regex ←
    if letters.lastOf? "EFGP" = some 'F' then pure (literal pattern)
    else
      let isClass := match pattern with
        | '[' :: ':' :: rest => rest.getLast? = some ']' && rest.dropLast.getLast? = some ':'
        | _ => false
      if isClass then refuseSearch "character class syntax is [[:space:]], not [:space:]"
      let isExtended := letters.hasAny "EP"
      match Regex.readAll (if isExtended then .loose else .looseBasic) pattern with
      | .error fault => refuseSearch fault.message
      | .ok (regex, reader) => do
        reader.idle.reverse.forM fun sign =>
          Work.write true (Octets.bytes ("grep: warning: " ++ sign ++ " at start of expression\n"))
        pure regex
  let within (first last : Edge) : Regex := .both (.edge first) (.both regex (.edge last))
  return if letters.has 'x' then within .textStart .textEnd
    else if letters.has 'w' then within .behindWord .beforeWord
    else regex

/-- A number of lines around. -/
def contextOf (text : String) : Work Nat := do
  match Text.digits? 10 text.toList with
  | some count => return count
  | none => refuseSearch (text ++ ": invalid context length argument")

/-- The numbers of lines before and after that options ask for. -/
def contexts (usage : Usage) : Work (Option Nat × Option Nat) := do
  let digits := (usage.given.filter fun (c, _) => c.isDigit).map (·.1)
  let both ← (usage.text? 'C').mapM contextOf
  let both := if digits.isEmpty then both else Text.digits? 10 digits
  let before ← (usage.text? 'B').mapM contextOf
  let after ← (usage.text? 'A').mapM contextOf
  return (before.or both, after.or both)

/-- The patterns that are looked for, and the paths of files. -/
def patternsAndPaths (usage : Usage) : Work (List (List Char) × List String) := do
  let given ← (usage.given.filter fun (c, _) => c = 'e' || c = 'f').mapM fun (c, text) => do
    if c = 'e' then return (text.toList.splitOn '\n')
    else
      match ← Work.contents text with
      | .ok bytes => return ((splitLines 10 bytes).1.map Octets.ofBytes)
      | .error fault => refuseSearch (text ++ ": " ++ reason fault)
  if given.isEmpty then
    match usage.operands with
    | pattern :: paths => return (pattern.toList.splitOn '\n', paths)
    | [] =>
      Work.write true (Octets.bytes ("Usage: grep [OPTION]... PATTERNS [FILE]...\n" ++
        "Try 'grep --help' for more information.\n"))
      Work.quit 2
  else return (given.flatten, usage.operands)

/-- What a search for patterns is, as options say. -/
def searchOf (usage : Usage) (regexes : List Regex) (paths : List String) (recurses : Bool) :
    Work Search := do
  let (before, after) ← contexts usage
  let most ← (usage.text? 'm').mapM fun text =>
    match text.toInt? with
    | some n => pure (if n < 0 then none else some n.toNat)
    | none => refuseSearch "invalid max count"
  let telling : Telling :=
    if usage.has 'q' then .nothing
    else
      match usage.lastOf? "lL" with
      | some c => .name (c == 'L')
      | none => if usage.has 'c' then .count else .lines
  let files ← Work.files
  let binary := if usage.has 'a' then "text" else
    (usage.text? 'N').getD (if usage.has 'I' then "without-match" else "binary")
  if !(["text", "binary", "without-match"].contains binary) then
    refuseSearch "unknown binary-files type"
  return {
    regexes
    view := { ignoresCase := match usage.lastOf? "iyj" with
      | some c => c != 'j'
      | none => false }
    isTurned := usage.has 'v'
    telling
    isBare := usage.has 'o'
    most := most.join
    before, after
    gap := if usage.has 'M' then none else some ((usage.text? 'S').getD "--")
    hasNames := match usage.lastOf? "hH" with
      | some c => c == 'H'
      | none => 1 < paths.length || (recurses && paths.any files.isDirectory)
    hasNumbers := usage.has 'n'
    hasOffsets := usage.has 'b'
    isQuiet := usage.has 's'
    binary
    ending := if usage.has 'z' then 0 else 10
    nameEnding := if usage.has 'Z' then 0 else 10
    label := (usage.text? 'K').getD "(standard input)" }

/-- Writes the lines of files in which something is found. -/
def grep (arguments : List String) : Work Unit := do
  match grepManual.parse (arguments.length + 1) arguments with
  | .error text =>
    Work.write true (Octets.bytes ("grep: " ++ text ++
      "\nUsage: grep [OPTION]... PATTERNS [FILE]...\nTry 'grep --help' for more information.\n"))
    Work.quit 2
  | .ok usage =>
    if usage.has '?' then Work.stop
    let kinds := (usage.given.map (·.1)).filter "EFGP".toList.contains
    if 1 < kinds.eraseDups.length then refuseSearch "conflicting matchers specified"
    if (usage.texts 'D').any fun text => text ≠ "read" ∧ text ≠ "skip" then
      refuseSearch "unknown devices method"
    let directories := if usage.hasAny "rR" then "recurse" else (usage.text? 'd').getD "read"
    let recurses := directories = "recurse"
    let (patterns, operands) ← patternsAndPaths usage
    let regexes ← patterns.mapM (readPattern usage)
    let paths := if !operands.isEmpty then operands else if recurses then ["."] else ["-"]
    let search ← searchOf usage regexes paths recurses
    let patternOf (text : String) : Shell.Pattern := text.toList.map fun c => (c, false)
    let range : Search.Range :=
      { directories
        followsLinks := usage.has 'R'
        included := (usage.texts 'J').map patternOf
        excluded := (usage.texts 'X').map patternOf
        excludedDirectories := (usage.texts 'Y').map patternOf }
    let isHere := operands.isEmpty && recurses
    let names := (← Work.files).names (← Work.files).here
    let search := if isHere then { search with hasNames := !usage.has 'h' } else search
    let result ←
      if isHere then
        names.foldlM
          (fun result name => Search.inFile range 64 false search name result)
          {}
      else if search.most = some 0 then pure {}
      else search.inFiles range paths
    let isGood := search.telling = .nothing && result.isFound
    Work.setStatus (if result.isWrong ∧ !isGood then 2 else if result.isFound then 0 else 1)

end BoardDebug.Build.Tool
