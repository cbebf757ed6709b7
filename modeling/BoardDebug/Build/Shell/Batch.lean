import BoardDebug.Build.Shell.Start

namespace BoardDebug.Build.Shell.Batch

/-- How words for a program are gathered. -/
structure Manner where
  /-- The only character that ends a word, if there is one. -/
  separator : Option Char := none
  /-- The word behind which no more are taken. -/
  last : Option String := none
  /-- The text that a whole line takes the place of. -/
  replaced : Option String := none
  /-- How many lines or words a program is given at most. -/
  lines : Option Nat := none
  count : Option Nat := none
  /-- How long all words for a program are at most. -/
  size : Nat := 131072
  /-- Whether words that are too long for one program are not given to two. -/
  isStrict : Bool := false
  warnings : List String := []

/-- A word, and whether a line ends behind it. -/
structure Piece where
  text : String
  endsLine : Bool

/-- What is said about quotes without an end. -/
def unmatched (quote : Char) : String :=
  "unmatched " ++ (if quote = '"' then "double" else "single") ++
    " quote; by default quotes are special to xargs unless you use the -0 option"

/-- The place of a character among the words. -/
inductive Spot where
  | between
  | inside
  | escaped
  | quoted (quote : Char)

/-- The words in a text; blanks end words unless lines count as a whole. Quotes without an end are a
fault behind all words that come before them. -/
def pieces (isWhole : Bool) : Spot → (word : List Char) → List Char → List Piece × Option String
  | .quoted quote, _, [] => ([], some (unmatched quote))
  | _, word, [] => (if word.isEmpty then [] else [piece word true], none)
  | .between, word, c :: rest =>
    if c.isWhitespace ∨ c = '\x0b' ∨ c = '\x0c' then pieces isWhole .between word rest
    else inside word c rest
  | .inside, word, c :: rest =>
    if c = '\n' ∨ ((c = ' ' ∨ c = '\t') ∧ !isWhole) then
      let (others, fault) := pieces isWhole .between [] rest
      (piece word (c == '\n') :: others, fault)
    else inside word c rest
  | .escaped, word, c :: rest => pieces isWhole .inside (c :: word) rest
  | .quoted quote, word, c :: rest =>
    if c = '\n' then ([], some (unmatched quote))
    else if c = quote then pieces isWhole .inside word rest
    else pieces isWhole (.quoted quote) (c :: word) rest
where
  piece (word : List Char) (endsLine : Bool) : Piece :=
    ⟨String.ofList (word.reverse.takeWhile (· ≠ '\x00')), endsLine⟩
  /-- Takes a character that ends no word. -/
  inside (word : List Char) (c : Char) (rest : List Char) : List Piece × Option String :=
    if c = '\\' then pieces isWhole .escaped word rest
    else if c = '"' ∨ c = '\x27' then pieces isWhole (.quoted c) word rest
    else pieces isWhole .inside (c :: word) rest

/-- The words in front of the one that is the last; one that nothing ends counts only if a line
starts with it. -/
def beforeLast (last : String) (isEnded : Bool) : (startsLine : Bool) → List Piece → List Piece
  | _, [] => []
  | startsLine, piece :: rest =>
    if piece.text = last ∧ (isEnded ∨ !rest.isEmpty ∨ startsLine) then []
    else piece :: beforeLast last isEnded piece.endsLine rest

/-- All words in a text, and what is wrong with it. -/
def Manner.read (manner : Manner) (text : List Char) : List Piece × Option String :=
  match manner.separator with
  | some separator =>
    let parts := text.splitOn separator
    let parts := if parts.getLast? = some [] then parts.dropLast else parts
    (parts.map fun part => ⟨String.ofList (part.takeWhile (· ≠ '\x00')), true⟩, none)
  | none =>
    let (found, fault) := pieces manner.replaced.isSome .between [] text
    let isEnded := text.getLast?.any fun c => c == '\n' || c == ' ' || c == '\t'
    (manner.last.elim found fun last => beforeLast last isEnded true found, fault)

/-- The words that one program is given so far. -/
structure Load where
  /-- The latest word comes first. -/
  words : List String := []
  lines : Nat := 0
  size : Nat

/-- The words of programs, a list for each one, and what is wrong behind them. -/
structure Plan where
  batches : List (List String) := []
  fault : Option String := none

/-- How much room a word takes. -/
def room (word : String) : Nat :=
  word.length + 1

/-- Shares words out among programs. -/
def Manner.share (manner : Manner) (size : Nat) (fault : Option String) : Load → List Piece → Plan
  | load, [] =>
    let isLeft := !load.words.isEmpty ∧ !(fault.isSome ∧ manner.isStrict)
    ⟨if isLeft then [load.words.reverse] else [], fault⟩
  | load, piece :: rest =>
    let isFull := manner.count.any (· ≤ load.words.length)
    let isLong := manner.size < load.size + room piece.text
    if manner.size < size + room piece.text then
      let isLeft := !load.words.isEmpty ∧ !manner.isStrict
      ⟨if isLeft then [load.words.reverse] else [], some "argument line too long"⟩
    else if !isFull ∧ isLong ∧ manner.isStrict ∧ (manner.count.isSome ∨ manner.lines.isSome) then
      ⟨[], some "argument list too long"⟩
    else
      let starts := isFull || isLong
      let before := if starts then [load.words.reverse] else []
      let load : Load := if starts then { size } else load
      let lines := load.lines + (if piece.endsLine then 1 else 0)
      let load : Load := ⟨piece.text :: load.words, lines, load.size + room piece.text⟩
      let plan :=
        if manner.lines.any (· ≤ lines) then
          let plan := share manner size fault { size } rest
          { plan with batches := load.words.reverse :: plan.batches }
        else share manner size fault load rest
      { plan with batches := before ++ plan.batches }

/-- What programs are given for the words in a text, with words that all of them are given. -/
def Manner.plan (manner : Manner) (words : List String) (always : Bool) (text : List Char) : Plan :=
  let (found, fault) := manner.read text
  match manner.replaced with
  | some sign =>
    ⟨found.map fun piece =>
      words.take 1 ++ words.tail.map fun word => piece.text.intercalate (word.splitOn sign), fault⟩
  | none =>
    let size := (words.map room).foldl (· + ·) 0
    if manner.size < size then
      ⟨[], some "cannot fit single argument within argument list size limit"⟩
    else
      let plan := manner.share size fault { size } found
      let batches :=
        if plan.batches.isEmpty ∧ plan.fault.isNone ∧ always then [[]] else plan.batches
      { plan with batches := batches.map (words ++ ·) }

/-- The character that a text spells as the end of words. -/
def separator? (text : String) : Except String Char :=
  let wrong (why : String) : Except String Char :=
    .error ("Invalid escape sequence " ++ text ++ " in input delimiter specification" ++ why)
  let number (base bound : Nat) (digits : List Char) (most : String) : Except String Char :=
    let known := digits.takeWhile fun c => (Text.digit? base c).isSome
    let value := (Text.digits? base known).getD 0
    if bound < value then wrong ("; character values must not exceed " ++ most ++ ".")
    else if known.length < digits.length then
      wrong ("; trailing characters " ++ String.ofList (digits.drop known.length) ++
        " not recognised.")
    else .ok (Char.ofNat value)
  match text.toList with
  | [c] => .ok c
  | '\\' :: 'x' :: digits => number 16 255 digits "ff"
  | ['\\', c] =>
    match Escapes.control? c, Text.digit? 8 c with
    | some c, _ => .ok c
    | none, some n => .ok (Char.ofNat n)
    | none, none => wrong "."
  | '\\' :: c :: digits =>
    if (Text.digit? 8 c).isSome then number 8 255 (c :: digits) "377" else wrong "."
  | _ =>
    .error ("Invalid input delimiter specification " ++ text ++ ": the delimiter must be either " ++
      "a single character or an escape sequence starting with \\.")

/-- The number that an option is given, which is not less than a bound. -/
def number (letter : Char) (least : Int) (text : String) : Except String Nat :=
  match Condition.integer? text with
  | some n =>
    if n < least then
      .error ("value " ++ toString n ++ " for -" ++ String.singleton letter ++
        " option should be >= " ++ toString least)
    else .ok n.toNat
  | none =>
    .error ("invalid number \"" ++ text ++ "\" for -" ++ String.singleton letter ++ " option")

/-- A manner after one more option. The result is a complaint otherwise, and says whether help is
offered. -/
def Manner.with (manner : Manner) (letter : Char) (text : String) :
    Except (String × Bool) Manner := do
  let helped {α : Type} (result : Except String α) : Except (String × Bool) α :=
    result.mapError fun text => (text, true)
  let counts := ("--max-args", manner.count.isSome)
  let lines := ("--max-lines", manner.lines.isSome)
  let replaces := ("--replace", manner.replaced.isSome)
  let instead (name : String) (others : List (String × Bool)) : List String :=
    (others.filter (·.2)).map fun (other, _) =>
      "options " ++ other ++ " and " ++ name ++
        " are mutually exclusive, ignoring previous " ++ other ++ " value"
  let replacing (sign : String) : Manner :=
    { manner with
      replaced := some sign, lines := none, count := none
      warnings := manner.warnings ++ instead "--replace/-I/-i" [counts, lines] }
  let byLines (n : Nat) (name : String) : Manner :=
    { manner with
      lines := some n, replaced := none, count := none, isStrict := true
      warnings := manner.warnings ++ instead name [counts, replaces] }
  match letter with
  | '0' => return { manner with separator := some '\x00' }
  | 'd' => return { manner with separator := some (← (separator? text).mapError (·, false)) }
  | 'E' => return { manner with last := if text.isEmpty then none else some text }
  | 'e' => return { manner with last := if text.isEmpty then none else some text }
  | 'I' => return replacing text
  | 'i' => return replacing (if text.isEmpty then "\x7b\x7d" else text)
  | 'L' => return byLines (← helped (number 'L' 1 text)) "-L"
  | 'l' =>
    let n ← helped (number 'l' 1 (if text.isEmpty then "1" else text))
    return byLines n "--max-lines/-l"
  | 'n' =>
    let n ← helped (number 'n' 1 text)
    if n = 1 ∧ manner.replaced.isSome then return manner
    return { manner with
      count := some n, lines := none, replaced := none
      warnings := manner.warnings ++ instead "--max-args/-n" [lines, replaces] }
  | 's' => return { manner with size := min 2092979 (← helped (number 's' 1 text)) }
  | 'P' =>
    let _ ← helped (number 'P' 0 text)
    return manner
  | 'x' => return { manner with isStrict := true }
  | _ => return manner

def manual : Tool.Manual where
  tool := "xargs"
  letters := "0a:d:E:e::I:i::L:l::n:oP:prs:tx"
  words := [("null", .nothing, '0'), ("arg-file", .text, 'a'), ("delimiter", .text, 'd'),
    ("eof", .perhaps, 'e'), ("replace", .perhaps, 'i'), ("max-lines", .perhaps, 'l'),
    ("max-args", .text, 'n'), ("open-tty", .nothing, 'o'), ("interactive", .nothing, 'p'),
    ("no-run-if-empty", .nothing, 'r'), ("max-chars", .text, 's'), ("verbose", .nothing, 't'),
    ("show-limits", .nothing, '1'), ("exit", .nothing, 'x'), ("max-procs", .text, 'P'),
    ("process-slot-var", .text, '2')]
  inOrder := true

/-- Runs a program that has nothing to read. The result is a status with which all ends. -/
def runOne (start : Script.Start) (tells isFed : Bool) (words : List String) :
    Script (Bool × Option Nat) := do
  let program := words.headD ""
  if tells then Script.warn (" ".intercalate (words.map Tool.shown) ++ "\n")
  let nothing ← Script.addFlow .nowhere
  let numbers := (← get).numbers
  let numbers := if isFed then numbers else Script.joinNumber 0 nothing numbers
  match ← Script.withNumbers numbers (start program words.tail) with
  | .error fault =>
    Script.warn ("xargs: " ++ program ++ ": " ++ Tool.reason fault ++ "\n")
    return (false, some (if fault = .missing then 127 else 126))
  | .ok (.exited 255) =>
    Script.warn ("xargs: " ++ program ++ ": exited with status 255; aborting\n")
    return (false, some 124)
  | .ok (.exited status) => return (status = 0, none)
  | .ok (.signalled signal _) =>
    Script.warn ("xargs: " ++ program ++ ": terminated by signal " ++ toString signal ++ "\n")
    return (false, some 125)

/-- Runs programs one after the other, and says what is wrong before the last one. -/
def runAll (run : List String → Script (Bool × Option Nat)) (fault : Option String) :
    (isFine : Bool) → List (List String) → Script Nat
  | isFine, [] => do
    if let some text := fault then
      Script.warn ("xargs: " ++ text ++ "\n")
      return 1
    return if isFine then 0 else 123
  | isFine, words :: rest => do
    match fault, rest with
    | some text, [] =>
      Script.warn ("xargs: " ++ text ++ "\n")
      let (_, ending) ← run words
      return ending.getD 1
    | fault, rest =>
      let (isGood, ending) ← run words
      match ending with
      | some status => return status
      | none => runAll run fault (isFine && isGood) rest

/-- Runs a program for words that are there to be read, again and again if there are many. -/
def run (start : Script.Start) (arguments : List String) : Script ExitStatus := do
  match ← Script.usageOf manual arguments with
  | .error status => return status
  | .ok usage =>
    let manner := usage.given.foldlM (fun (manner : Manner) (letter, text) =>
      manner.with letter text) {}
    match manner with
    | .error (text, isHelped) =>
      if isHelped then return ← Script.misused "xargs" text 1
      Script.warn ("xargs: " ++ text ++ "\n")
      return .exited 1
    | .ok manner =>
      manner.warnings.forM fun text => Script.warn ("xargs: warning: " ++ text ++ "\n")
      if manner.separator.isSome ∧ manner.last.isSome then
        Script.warn "xargs: warning: the -E option has no effect if -0 or -d is used.\n\n"
      let path := (usage.text? 'a').getD "-"
      let content ←
        if path = "-" then do
          let bytes ← Script.available 0
          Script.consume 0 bytes.length
          pure (.ok bytes)
        else pure ((← get).machine.files.contents path)
      match content with
      | .error fault =>
        Script.warn ("xargs: Cannot open input file " ++ Tool.quoted path ++ ": " ++
          Tool.reason fault ++ "\n")
        return .exited 1
      | .ok bytes =>
        let words := if usage.operands.isEmpty then ["echo"] else usage.operands
        if manner.separator.isNone ∧ bytes.contains 0 then
          Script.warn ("xargs: WARNING: a NUL character occurred in the input.  It cannot be " ++
            "passed through in the argument list.  Did you mean to use the --null option?\n")
        let plan := manner.plan words (!usage.has 'r') (Octets.ofBytes bytes)
        let run := runOne start (usage.has 't') (path ≠ "-")
        return .exited (← runAll run plan.fault true plan.batches)

end BoardDebug.Build.Shell.Batch
