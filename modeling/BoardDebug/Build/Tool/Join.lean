import BoardDebug.Build.Tool.Usage
import BoardDebug.Text.Number

namespace BoardDebug.Build.Tool

namespace Join

/-- A line of a file, with its number and its fields. -/
structure Row where
  number : Nat
  text : List Char
  fields : List (List Char)

/-- What of a row is written: the field by which rows are joined, or one of one of the files. -/
inductive Item where
  | shared
  | field (isSecond : Bool) (index : Nat)

/-- Whether the order of rows is looked at. -/
inductive OrderCheck where
  | never
  | always
  /-- Only where there are rows that have no partner. -/
  | usual
deriving DecidableEq

/-- How files are joined. Fields are counted from zero. -/
structure Manner where
  paths : String × String
  first : Nat
  second : Nat
  /-- What stands between fields; a line end means that lines have one field each. -/
  mark : Option Char
  filler : List Char
  items : Option (List Item)
  /-- How many fields are written of the rows of each file, if that is always the same. -/
  counts : Option (Nat × Nat)
  pairs : Bool
  loneFirst : Bool
  loneSecond : Bool
  ignoresCase : Bool
  check : OrderCheck
  ending : Char

def isBlank (c : Char) : Bool :=
  c == ' ' || c == '\t' || c == '\n'

/-- The fields of a line between runs of blanks. -/
def blankFields : Nat → List Char → List (List Char)
  | 0, _ => []
  | fuel + 1, text =>
    let (field, rest) := text.span (!isBlank ·)
    if rest.isEmpty then [field] else field :: blankFields fuel (rest.dropWhile isBlank)

def fieldsOf (mark : Option Char) (line : List Char) : List (List Char) :=
  match mark with
  | some '\n' => [line]
  | some mark => if line.isEmpty then [] else line.splitOn mark
  | none =>
    let text := line.dropWhile isBlank
    if text.isEmpty then [] else blankFields (text.length + 1) text

def rows (mark : Option Char) (ending : UInt8) (bytes : Bytes) : List Row :=
  ((splitLines ending bytes).1.zipIdx).map fun (line, i) =>
    let text := Octets.ofBytes line
    ⟨i + 1, text, fieldsOf mark text⟩

namespace Manner

def key (how : Manner) (isSecond : Bool) (row : Row) : List Char :=
  let key := (row.fields[if isSecond then how.second else how.first]?).getD []
  if how.ignoresCase then key.map Char.toUpper else key

def compareKeys (a b : List Char) : Ordering :=
  compare (String.ofList a) (String.ofList b)

/-- A field, or what stands for one that is missing or empty. -/
def field (how : Manner) (row? : Option Row) (index : Nat) : List Char :=
  match row?.bind (·.fields[index]?) with
  | some (c :: rest) => c :: rest
  | _ => how.filler

/-- The line that is written for two rows, one of which may be missing. -/
def line (how : Manner) (first? second? : Option Row) : List Char :=
  let shared := match first? with
    | some row => how.field row how.first
    | none => how.field second? how.second
  let others (row? : Option Row) (key count : Nat) : List (List Char) :=
    ((List.range count).filter (· ≠ key)).map (how.field row?)
  let fields := match how.items with
    | some items => items.map fun
      | .shared => shared
      | .field false index => how.field first? index
      | .field true index => how.field second? index
    | none =>
      let count (row? : Option Row) : Nat := (row?.map (·.fields.length)).getD 0
      let (m, n) := how.counts.getD (count first?, count second?)
      shared :: others first? how.first m ++ others second? how.second n
  let mark := match how.mark with
    | some '\n' => ' '
    | mark => mark.getD ' '
  [mark].intercalate fields ++ [how.ending]

def write (how : Manner) (first? second? : Option Row) : Work Unit :=
  Work.print (Octets.toBytes (how.line first? second?))

end Manner

/-- What is known about the order of the rows that have been read. -/
structure Watch where
  /-- Whether there was a row that has no partner. -/
  hasLone : Bool := false
  /-- Whether rows of a file were found that are not in order. -/
  first : Bool := false
  second : Bool := false

/-- Looks at the order of two rows of one file that follow each other. -/
def watch (how : Manner) (isSecond : Bool) (seen : Watch) (before after : Row) : Work Watch := do
  let isOn := how.check == .always || (how.check == .usual && seen.hasLone)
  let isKnown := if isSecond then seen.second else seen.first
  let keys := (how.key isSecond before, how.key isSecond after)
  if isOn ∧ !isKnown ∧ Manner.compareKeys keys.1 keys.2 = .gt then
    let path := if isSecond then how.paths.2 else how.paths.1
    Work.complain ("join: " ++ path ++ ":" ++ toString after.number ++ ": is not sorted: " ++
      String.ofList after.text)
    if how.check = .always then Work.stop
    return if isSecond then { seen with second := true } else { seen with first := true }
  else return seen

/-- Goes on by some rows of one file. -/
def advance (how : Manner) (isSecond : Bool) : Nat → Watch → List Row → Work (Watch × List Row)
  | 0, seen, rows => return (seen, rows)
  | _, seen, [] => return (seen, [])
  | _, seen, [_] => return (seen, [])
  | count + 1, seen, before :: after :: rest => do
    let seen ← watch how isSecond seen before after
    advance how isSecond count seen (after :: rest)

/-- Goes over the rows of one file for which there are no others left. -/
def finish (how : Manner) (isSecond : Bool) : Watch → List Row → Work Watch
  | seen, [] => return seen
  | seen, row :: rest => do
    let isWritten := if isSecond then how.loneSecond else how.loneFirst
    if isWritten then
      if isSecond then how.write none row else how.write row none
    let isKnown := if isSecond then seen.second else seen.first
    if how.check = .never ∧ !isWritten then return seen
    else if isKnown ∧ !isWritten then return seen
    else
      match rest with
      | [] => return seen
      | next :: _ => finish how isSecond (← watch how isSecond seen row next) rest

/-- Joins the rows of two files. -/
def go (how : Manner) : Nat → Watch → List Row → List Row → Work Watch
  | 0, seen, _, _ => return seen
  | fuel + 1, seen, a :: as, b :: bs => do
    match Manner.compareKeys (how.key false a) (how.key true b) with
    | .lt =>
      if how.loneFirst then how.write a none
      let (seen, rest) ← advance how false 1 seen (a :: as)
      go how fuel { seen with hasLone := true } rest (b :: bs)
    | .gt =>
      if how.loneSecond then how.write none b
      let (seen, rest) ← advance how true 1 seen (b :: bs)
      go how fuel { seen with hasLone := true } (a :: as) rest
    | .eq =>
      let key := how.key false a
      let mine := (a :: as).takeWhile fun row => how.key false row = key
      let others := (b :: bs).takeWhile fun row => how.key true row = key
      let (seen, as') ← advance how false mine.length seen (a :: as)
      let (seen, bs') ← advance how true others.length seen (b :: bs)
      if how.pairs then
        mine.forM fun x => others.forM fun y => how.write x y
      go how fuel seen as' bs'
  | _, seen, as, bs => do
    let seen := { seen with hasLone := seen.hasLone || (!as.isEmpty && !bs.isEmpty) }
    finish how true (← finish how false seen as) bs

/-- The number of a field, from one on. -/
def fieldNumber (text : String) : Work Nat := do
  match Text.digits? 10 text.toList with
  | some (n + 1) => return n
  | _ =>
    Work.complain ("join: invalid field number: " ++ quoted text)
    Work.stop

/-- What a word says that asks for a field. -/
def item (word : String) : Work Item := do
  if word = "0" then return .shared
  else
    match word.toList with
    | '1' :: '.' :: number => return .field false (← fieldNumber (String.ofList number))
    | '2' :: '.' :: number => return .field true (← fieldNumber (String.ofList number))
    | c :: _ =>
      let what := if ['0', '1', '2'].contains c then "invalid field specifier: "
        else "invalid file number in field spec: "
      Work.complain ("join: " ++ what ++ quoted word)
      Work.stop
    | [] =>
      Work.complain "join: invalid file number in field spec: ''"
      Work.stop

def manual : Manual where
  tool := "join"
  letters := "a:e:i1:2:j:o:t:v:z"
  words := [("ignore-case", .nothing, 'i'), ("check-order", .nothing, 'C'),
    ("nocheck-order", .nothing, 'N'), ("zero-terminated", .nothing, 'z'),
    ("header", .nothing, 'H')]

end Join

open Join in
/-- Joins the lines of two files that have a field in common. -/
def join (arguments : List String) : Work Unit := do
  let usage ← manual.usage arguments
  let refuse {α : Type} (text : String) : Work α := do
    Work.complain ("join: " ++ text)
    Work.stop
  let both ← (usage.texts 'j').mapM fieldNumber
  let ones ← (usage.texts '1').mapM fieldNumber
  let twos ← (usage.texts '2').mapM fieldNumber
  let sides ← (usage.texts 'a' ++ usage.texts 'v').mapM fun text => do
    if text = "1" ∨ text = "2" then return text
    else refuse ("invalid field number: " ++ quoted text)
  let mark ← match (usage.text? 't').map String.toList with
    | none => pure none
    | some [] => pure (some '\n')
    | some ['\\', '0'] => pure (some '\x00')
    | some [c] => pure (some c)
    | some text => refuse ("multi-character tab " ++ quoted (String.ofList text))
  let isAuto := usage.text? 'o' == some "auto"
  let items? ← if isAuto ∨ !usage.has 'o' then pure none
    else do
      let words := (usage.texts 'o').flatMap fun text =>
        (text.toList.splitOnP fun c => c = ',' ∨ isBlank c).map String.ofList
      pure (some (← words.mapM item))
  match usage.operands with
  | [] => misuse "join" "missing operand" 1
  | [only] => misuse "join" ("missing operand after " ++ quoted only) 1
  | _ :: _ :: extra :: _ => misuse "join" ("extra operand " ++ quoted extra) 1
  | [path, other] =>
    if path = "-" ∧ other = "-" then refuse "both files cannot be standard input"
    let ending : UInt8 := if usage.has 'z' then 0 else 10
    let rowsOf (path : String) : Work (List Row) := do
      match ← Work.contents path with
      | .ok bytes => return rows mark ending bytes
      | .error fault => refuse (shown path ++ ": " ++ reason fault)
    let firsts ← rowsOf path
    let seconds ← rowsOf other
    let count (rows : List Row) : Nat := (rows.head?.map (·.fields.length)).getD 0
    let isLone (side : String) : Bool := sides.contains side
    let how : Manner :=
      { paths := (path, other)
        first := (both ++ ones).getLastD 0
        second := (both ++ twos).getLastD 0
        mark
        filler := ((usage.text? 'e').getD "").toList
        items := items?
        counts := if isAuto then some (count firsts, count seconds) else none
        pairs := !usage.has 'v'
        loneFirst := isLone "1"
        loneSecond := isLone "2"
        ignoresCase := usage.has 'i'
        check := match usage.lastOf? "CN" with
          | some 'C' => .always
          | some _ => .never
          | none => .usual
        ending := .ofNat ending.toNat }
    let isHeaded := usage.has 'H' && !(firsts.isEmpty && seconds.isEmpty)
    if isHeaded then how.write firsts.head? seconds.head?
    let (firsts, seconds) := if isHeaded then (firsts.tail, seconds.tail) else (firsts, seconds)
    let seen ← go how (firsts.length + seconds.length + 1) {} firsts seconds
    if seen.first ∨ seen.second then Work.complain "join: input is not in sorted order"

end BoardDebug.Build.Tool
