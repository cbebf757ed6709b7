import BoardDebug.Build.CharClass
import BoardDebug.Build.Tool.Magnitude
import BoardDebug.Build.Tool.Usage

namespace BoardDebug.Build.Tool

namespace Order

def isBlank (c : Char) : Bool :=
  c == ' ' || c == '\t'

/-- The number at the front of a text: what its digits spell, how many of them are a fraction, and
what follows. -/
def number (text : List Char) : Int × Nat × List Char :=
  let text := text.dropWhile isBlank
  let isNegative := text.head? == some '-'
  let (whole, rest) := (if isNegative then text.tail else text).span Char.isDigit
  let (fraction, rest) := match rest with
    | '.' :: more => more.span Char.isDigit
    | rest => ([], rest)
  let n : Int := (Text.digits? 10 (whole ++ fraction)).getD 0
  (if isNegative then -n else n, fraction.length, rest)

def compareNumbers (a b : List Char) : Ordering :=
  let (x, p, _) := number a
  let (y, q, _) := number b
  compare (x * Nat.pow 10 q) (y * Nat.pow 10 p)

/-- Compares numbers that have letters for multiples behind them. -/
def compareSizes (a b : List Char) : Ordering :=
  let power (text : List Char) : Int :=
    let (n, _, rest) := number text
    let power : Nat := match rest.head? with
      | some c => if c = 'k' then 1 else (("KMGTPEZY".toList.idxOf c) + 1) % 9
      | none => 0
    if n < 0 then -power else power
  let sign (text : List Char) : Int := (number text).1.sign
  (compare (sign a) (sign b)).then ((compare (power a) (power b)).then (compareNumbers a b))

/-- Compares numbers in any spelling; what is no number comes first. -/
def compareReals (a b : List Char) : Ordering :=
  let value (text : List Char) : Option (Int × Int × Nat) :=
    match Numeral.read? 64 text with
    | some (.finite isNegative m, _) =>
      let (n, d) := m.quotient
      some (0, if isNegative then -n else n, d)
    | some (.infinite isNegative, _) => some (if isNegative then -1 else 1, 0, 1)
    | _ => none
  match value a, value b with
  | none, none => .eq
  | none, some _ => .lt
  | some _, none => .gt
  | some (x, n, d), some (y, m, e) => (compare x y).then (compare (n * e) (m * d))

/-- Compares texts in which runs of digits count as numbers. -/
def compareVersions : Nat → List Char → List Char → Ordering
  | 0, _, _ => .eq
  | _, [], [] => .eq
  | fuel + 1, a, b =>
    let (x, a) := a.span (!·.isDigit)
    let (y, b) := b.span (!·.isDigit)
    let (m, a) := a.span Char.isDigit
    let (n, b) := b.span Char.isDigit
    let rank (c : Char) : Nat := if c.isAlpha then c.toNat else if c = '~' then 0 else c.toNat + 256
    let words := compareRanks (x.map rank) (y.map rank)
    words.then ((compare ((Text.digits? 10 m).getD 0) ((Text.digits? 10 n).getD 0)).then
      (compareVersions fuel a b))
where
  compareRanks : List Nat → List Nat → Ordering
    | [], [] => .eq
    | [], n :: _ => compare 1 n
    | n :: _, [] => compare n 1
    | m :: ms, n :: ns => (compare m n).then (compareRanks ms ns)

def months : List String :=
  ["JAN", "FEB", "MAR", "APR", "MAY", "JUN", "JUL", "AUG", "SEP", "OCT", "NOV", "DEC"]

/-- The number of a month, from one on; zero for anything else. -/
def month (text : List Char) : Nat :=
  let name := String.ofList (((text.dropWhile isBlank).take 3).map Char.toUpper)
  (months.idxOf name + 1) % 13

/-- A part of a line by which lines are sorted. -/
structure Key where
  startField : Nat := 1
  startChar : Nat := 1
  stopField : Option Nat := none
  stopChar : Nat := 0
  /-- The letters that say how it is compared. -/
  letters : List Char := []
  startsAtWord : Bool := false
  stopsAtWord : Bool := false

/-- The text behind some fields. -/
def behindFields (mark : Option Char) (count : Nat) (text : List Char) : List Char :=
  match count with
  | 0 => text
  | count + 1 =>
    let rest := match mark with
      | some mark => (text.dropWhile (· ≠ mark)).drop 1
      | none => (text.dropWhile isBlank).dropWhile (!isBlank ·)
    behindFields mark count rest

/-- How much of a line comes before the end of a field. -/
def fieldEnd (mark : Option Char) (field : Nat) (text : List Char) : Nat :=
  let rest := behindFields mark (field - 1) text
  let after := match mark with
    | some mark => rest.dropWhile (· ≠ mark)
    | none => (rest.dropWhile isBlank).dropWhile (!isBlank ·)
  text.length - after.length

/-- The part of a line that a key means. -/
def Key.of (key : Key) (mark : Option Char) (line : List Char) : List Char :=
  let begun := behindFields mark (key.startField - 1) line
  let begun := if key.startsAtWord then begun.dropWhile isBlank else begun
  let begun := begun.drop (key.startChar - 1)
  let start := line.length - begun.length
  match key.stopField with
  | none => begun
  | some field =>
    let stop :=
      if key.stopChar = 0 then fieldEnd mark field line
      else
        let rest := behindFields mark (field - 1) line
        let rest := if key.stopsAtWord then rest.dropWhile isBlank else rest
        min line.length (line.length - rest.length + key.stopChar)
    (line.take stop).drop start

/-- Compares two texts in the way that letters say. -/
def compareBy (letters : List Char) (a b : List Char) : Ordering :=
  let has (c : Char) : Bool := letters.contains c
  let order :=
    if has 'n' then compareNumbers a b
    else if has 'g' then compareReals a b
    else if has 'h' then compareSizes a b
    else if has 'M' then compare (month a) (month b)
    else if has 'V' then compareVersions (a.length + b.length + 1) a b
    else
      let shape (text : List Char) : List Char :=
        let text := if has 'd' then text.filter fun c => isBlank c || c.isAlphanum else text
        let text := if has 'i' then text.filter fun c => ' ' ≤ c && c ≤ '~' else text
        if has 'f' then text.map Char.toUpper else text
      compareTexts (shape a) (shape b)
  if has 'r' then order.swap else order
where
  compareTexts : List Char → List Char → Ordering
    | [], [] => .eq
    | [], _ => .lt
    | _, [] => .gt
    | a :: as, b :: bs => (compare a b).then (compareTexts as bs)

/-- The place that a number and perhaps another one behind a point say, with letters behind. -/
def spot (text : List Char) : Except String (Nat × Option Nat × List Char × List Char) := do
  let (field, rest) := text.span Char.isDigit
  match Text.digits? 10 field with
  | none => throw (": invalid count at start of " ++ quoted (String.ofList text))
  | some n =>
    let (char, rest) ← match rest with
      | '.' :: more =>
        let (digits, rest) := more.span Char.isDigit
        match Text.digits? 10 digits with
        | some n => pure (some n, rest)
        | none => throw (": invalid count at start of " ++ quoted (String.ofList more))
      | rest => pure (none, rest)
    let (letters, rest) := rest.span "bdfghiMnRrV".toList.contains
    return (n, char, letters, rest)

/-- The key that a text describes. -/
def Key.read (text : String) : Except String Key := do
  let invalid (why : String) : String :=
    why ++ ": invalid field specification " ++ quoted text
  let (field, char, letters, rest) ← match spot text.toList with
    | .ok found => pure found
    | .error why => throw ("invalid number at field start" ++ why)
  if field = 0 then throw (invalid "field number is zero")
  if char = some 0 then throw (invalid "character offset is zero")
  let key : Key :=
    { startField := field, startChar := char.getD 1, letters
      startsAtWord := letters.contains 'b' }
  match rest with
  | [] => return key
  | ',' :: rest =>
    let (field, char, more, rest) ← match spot rest with
      | .ok found => pure found
      | .error why => throw ("invalid number after ','" ++ why)
    if field = 0 then throw (invalid "field number is zero")
    if !rest.isEmpty then throw (invalid "stray character in field spec")
    return { key with
      stopField := some field
      stopChar := char.getD 0
      letters := letters ++ more
      stopsAtWord := more.contains 'b' }
  | _ => throw (invalid "stray character in field spec")

end Order

open BoardDebug.Build.Tool.Order

def sortManual : Manual where
  tool := "sort"
  letters := "bcCdfghik:mMno:rRsS:t:T:uVyz"
  words := [("ignore-leading-blanks", .nothing, 'b'), ("check", .perhaps, 'c'),
    ("dictionary-order", .nothing, 'd'), ("ignore-case", .nothing, 'f'),
    ("general-numeric-sort", .nothing, 'g'), ("human-numeric-sort", .nothing, 'h'),
    ("ignore-nonprinting", .nothing, 'i'), ("key", .text, 'k'), ("merge", .nothing, 'm'),
    ("month-sort", .nothing, 'M'), ("numeric-sort", .nothing, 'n'), ("output", .text, 'o'),
    ("reverse", .nothing, 'r'), ("stable", .nothing, 's'), ("buffer-size", .text, 'S'),
    ("field-separator", .text, 't'), ("temporary-directory", .text, 'T'), ("parallel", .text, 'P'),
    ("unique", .nothing, 'u'), ("version-sort", .nothing, 'V'), ("zero-terminated", .nothing, 'z')]
  status := 2

/-- Writes the lines of files in their order. -/
def sort (arguments : List String) : Work Unit := do
  let usage ← sortManual.usage arguments
  let refuse {α : Type} (text : String) : Work α := do
    Work.complain ("sort: " ++ text)
    Work.quit 2
  let globals := (usage.given.map (·.1)).filter "bdfghiMnrRV".toList.contains
  let own (key : Key) : Key :=
    if key.letters.isEmpty then
      let skips := globals.contains 'b'
      { key with letters := globals, startsAtWord := skips, stopsAtWord := skips }
    else key
  let keys ← (usage.texts 'k').mapM fun text =>
    match Key.read text with
    | .ok key => return own key
    | .error why => refuse why
  let keys := if keys.isEmpty ∧ globals.any (· ≠ 'r') then [own {}] else keys
  let mark ← match (usage.text? 't').map String.toList with
    | none => pure none
    | some ['\\', '0'] => pure (some '\x00')
    | some [c] => pure (some c)
    | some [] => refuse "empty tab"
    | some text => refuse ("multi-character tab " ++ quoted (String.ofList text))
  let ending : UInt8 := if usage.has 'z' then 0 else 10
  let compareKeys (a b : List Char) : Ordering :=
    keys.foldl (fun order key =>
      order.then (compareBy key.letters (key.of mark a) (key.of mark b))) .eq
  let isReversed := globals.contains 'r'
  let order (a b : List Char) : Ordering :=
    let last := compareBy.compareTexts a b
    let last := if isReversed then last.swap else last
    if keys.isEmpty then last
    else
      let first := compareKeys a b
      if usage.hasAny "su" then first else first.then last
  let paths := if usage.operands.isEmpty then ["-"] else usage.operands
  let texts ← paths.mapM fun path => do
    match ← Work.contents path with
    | .ok bytes => return (splitLines ending bytes).1.map Octets.ofBytes
    | .error .isDirectory => refuse ("read failed: " ++ shown path ++ ": Is a directory")
    | .error fault =>
      let what := if path = "-" then "stat failed: " else "cannot read: "
      refuse (what ++ shown path ++ ": " ++ reason fault)
  let lines := texts.flatten
  if usage.hasAny "cC" then
    let isWrong (a b : List Char) : Bool :=
      if usage.has 'u' then order a b != .lt else order a b == .gt
    match (lines.zip lines.tail).zipIdx.find? fun ((a, b), _) => isWrong a b with
    | some ((_, line), i) =>
      if usage.has 'c' then
        Work.complain ("sort: " ++ paths.headD "-" ++ ":" ++ toString (i + 2) ++ ": disorder: " ++
          String.ofList line)
      Work.setStatus 1
    | none => return ()
  else
    let sorted := lines.mergeSort fun a b => order a b != .gt
    let kept := if usage.has 'u' then
        sorted.zipIdx.filterMap fun (line, i) =>
          if i ≠ 0 ∧ (sorted[i - 1]?.any fun before => order before line == .eq) then none
          else some line
      else sorted
    let bytes := joinLines ending (kept.map Octets.toBytes) true
    match usage.text? 'o' with
    | none => Work.print bytes
    | some path =>
      match ← Work.store path bytes with
      | .ok () => return ()
      | .error fault => refuse ("open failed: " ++ shown path ++ ": " ++ reason fault)

/-- The part of a line that counts when lines next to each other are compared. -/
def countedPart (usage : Usage) (number : Char → Nat) (line : List Char) : List Char :=
  let rest := behindFields none (number 'f') line
  let rest := rest.drop (number 's')
  let rest := if usage.has 'w' then rest.take (number 'w') else rest
  if usage.has 'i' then rest.map Char.toLower else rest

/-- Runs of lines that count as the same. -/
def runs (part : List Char → List Char) : List (List Char) → List (List (List Char))
  | [] => []
  | line :: rest =>
    match runs part rest with
    | (next :: others) :: runs =>
      if part line = part next then (line :: next :: others) :: runs
      else [line] :: (next :: others) :: runs
    | runs => [line] :: runs

/-- Writes lines that come more than once after each other only once. -/
def uniq (arguments : List String) : Work Unit := do
  let manual : Manual := ⟨"uniq", "cdDf:is:uw:z",
    [("count", .nothing, 'c'), ("repeated", .nothing, 'd'), ("all-repeated", .perhaps, 'D'),
      ("skip-fields", .text, 'f'), ("ignore-case", .nothing, 'i'), ("skip-chars", .text, 's'),
      ("unique", .nothing, 'u'), ("check-chars", .text, 'w'),
      ("zero-terminated", .nothing, 'z')], false, 1⟩
  let usage ← manual.usage arguments
  let names := [('f', "fields to skip"), ('s', "bytes to skip"), ('w', "bytes to compare")]
  names.forM fun (letter, what) => do
    match usage.text? letter with
    | some text =>
      if (Text.digits? 10 text.toList).isNone then
        Work.complain ("uniq: " ++ text ++ ": invalid number of " ++ what)
        Work.stop
    | none => return ()
  let (source, target) ← match usage.operands with
    | [] => pure ("-", none)
    | [source] => pure (source, none)
    | [source, target] => pure (source, some target)
    | _ :: _ :: extra :: _ => misuse "uniq" ("extra operand " ++ quoted extra) 1
  let ending : UInt8 := if usage.has 'z' then 0 else 10
  match ← Work.contents source with
  | .error fault =>
    let what := if source = "-" then "error reading '-'" else shown source
    Work.complain ("uniq: " ++ what ++ ": " ++ reason fault)
  | .ok bytes =>
    let number (letter : Char) : Nat := ((usage.text? letter).bind (·.toNat?)).getD 0
    let lines := (splitLines ending bytes).1.map Octets.ofBytes
    let runs := runs (countedPart usage number) lines
    let isKept (run : List (List Char)) : Bool :=
      let isMany := 1 < run.length
      (isMany || !usage.hasAny "dD") && (!isMany || !usage.has 'u')
    let kept := (runs.filter isKept).flatMap fun run =>
      if usage.has 'D' then run
      else if usage.has 'c' then
        let count := toString run.length
        let blanks := String.ofList (List.replicate (7 - count.length) ' ')
        [(blanks ++ count ++ " ").toList ++ run.headD []]
      else [run.headD []]
    let written := joinLines ending (kept.map Octets.toBytes) true
    match target with
    | none => Work.print written
    | some path =>
      if path = "-" then Work.print written
      else
        match ← Work.store path written with
        | .ok () => return ()
        | .error fault => Work.complain ("uniq: " ++ shown path ++ ": " ++ reason fault)

/-- The lines of two texts in order, each with the number of its column. -/
def merged : Nat → List Bytes → List Bytes → List (Nat × Bytes)
  | 0, _, _ => []
  | _, as, [] => as.map (0, ·)
  | _, [], bs => bs.map (1, ·)
  | fuel + 1, a :: as, b :: bs =>
    match compareBy.compareTexts (Octets.ofBytes a) (Octets.ofBytes b) with
    | .lt => (0, a) :: merged fuel as (b :: bs)
    | .gt => (1, b) :: merged fuel (a :: as) bs
    | .eq => (2, a) :: merged fuel as bs

def isSorted (lines : List Bytes) : Bool :=
  (lines.zip lines.tail).all fun (a, b) =>
    compareBy.compareTexts (Octets.ofBytes a) (Octets.ofBytes b) != .gt

/-- Writes which lines two files share. -/
def comm (arguments : List String) : Work Unit := do
  let manual : Manual := ⟨"comm", "123z",
    [("check-order", .nothing, 'k'), ("nocheck-order", .nothing, 'K'),
      ("output-delimiter", .text, 'o'), ("total", .nothing, 'T'),
      ("zero-terminated", .nothing, 'z')], false, 1⟩
  let usage ← manual.usage arguments
  let (first, second) ← match usage.operands with
    | [first, second] => pure (first, second)
    | [] => misuse "comm" "missing operand" 1
    | [only] => misuse "comm" ("missing operand after " ++ quoted only) 1
    | _ :: _ :: extra :: _ => misuse "comm" ("extra operand " ++ quoted extra) 1
  let ending : UInt8 := if usage.has 'z' then 0 else 10
  let read (path : String) : Work (List Bytes) := do
    match ← Work.contents path with
    | .ok bytes => return (splitLines ending bytes).1
    | .error fault =>
      Work.complain ("comm: " ++ shown path ++ ": " ++ reason fault)
      Work.stop
  let as ← read first
  let bs ← read second
  let isHidden (column : Nat) : Bool := usage.given.any fun (c, _) => c.toNat = 49 + column
  let mark := Octets.bytes ((usage.text? 'o').getD "\t")
  let all := merged (as.length + bs.length + 1) as bs
  let lines := all.filterMap fun (column, line) =>
    if isHidden column then none
    else
      let before := (List.range column).filter (!isHidden ·)
      some ((before.map fun _ => mark).flatten ++ line)
  Work.print (joinLines ending lines true)
  if !usage.has 'K' then
    let wrong := [(as, "1"), (bs, "2")].filter fun (lines, _) => !isSorted lines
    if !wrong.isEmpty ∧ all.any (·.1 ≠ 2) then
      wrong.forM fun (_, number) =>
        Work.complain ("comm: file " ++ number ++ " is not in sorted order")
      Work.complain "comm: input is not in sorted order"

end BoardDebug.Build.Tool
