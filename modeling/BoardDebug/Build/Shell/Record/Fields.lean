import BoardDebug.Build.Shell.Record.Grammar

namespace BoardDebug.Build.Shell.Record

/-- What stands between the parts of a text. -/
inductive Gap where
  /-- Blanks and line ends, which do not count at either end of the text. -/
  | blanks
  | char (c : Char)
  /-- Nothing, so that each character is a part. -/
  | none
  | fits (regex : Regex)
  /-- Empty lines, which do not count at either end of the text. -/
  | emptyLines

namespace Gap

/-- The gap between fields that a text asks for. -/
def ofFields (text : String) : Except String Gap :=
  match text.toList with
  | [' '] => .ok .blanks
  | [] => .ok .none
  | [c] => .ok (.char c)
  | _ => (Parsing.describe text).map fun (regex, _) => .fits regex

/-- The gap between records that a text asks for. -/
def ofRecords (text : String) : Except String Gap :=
  match text.toList with
  | [] => .ok .emptyLines
  | [c] => .ok (.char c)
  | _ => (Parsing.describe text).map fun (regex, _) => .fits regex

def isBlank (c : Char) : Bool :=
  c == ' ' || c == '\t' || c == '\n'

/-- The parts of a text between runs of blanks. -/
def words : Nat → List Char → List (List Char)
  | 0, _ => []
  | fuel + 1, text =>
    let text := text.dropWhile isBlank
    if text.isEmpty then []
    else
      let (word, rest) := text.span (!isBlank ·)
      word :: words fuel rest

/-- The first place from a given one on at which something fits that is not empty. -/
def nextFit (regex : Regex) (text : List Char) : Nat → (start : Nat) → Option (Nat × Nat)
  | 0, _ => Option.none
  | fuel + 1, start =>
    match regex.find? {} text start with
    | some found =>
      if found.start < found.stop then some (found.start, found.stop)
      else if found.start < text.length then nextFit regex text fuel (found.start + 1)
      else Option.none
    | Option.none => Option.none

/-- The parts of a text between what fits. -/
def between (regex : Regex) (text : List Char) : Nat → (start : Nat) → List (List Char)
  | 0, start => [text.drop start]
  | fuel + 1, start =>
    match nextFit regex text (text.length + 1) start with
    | some (first, last) => (text.take first).drop start :: between regex text fuel last
    | Option.none => [text.drop start]

/-- The parts of a text. -/
def parts (gap : Gap) (text : List Char) : List (List Char) :=
  if text.isEmpty then []
  else
    match gap with
    | .blanks => words (text.length + 1) text
    | .char c => text.splitOn c
    | .none => text.map ([·])
    | .fits regex => between regex text (text.length + 1) 0
    | .emptyLines => [text]

/-- A text up to an empty line, and what follows all empty lines there. -/
def untilEmptyLine : List Char → List Char × List Char
  | [] => ([], [])
  | ['\n'] => ([], [])
  | '\n' :: '\n' :: rest => ([], rest.dropWhile (· = '\n'))
  | c :: rest =>
    let (text, after) := untilEmptyLine rest
    (c :: text, after)

/-- The first record of a text, and what follows it. -/
def first? (gap : Gap) (text : List Char) : Option (List Char × List Char) :=
  match gap with
  | .emptyLines =>
    let text := text.dropWhile (· = '\n')
    if text.isEmpty then Option.none else some (untilEmptyLine text)
  | .char c =>
    if text.isEmpty then Option.none
    else
      let record := text.takeWhile (· ≠ c)
      some (record, text.drop (record.length + 1))
  | .fits regex =>
    if text.isEmpty then Option.none
    else
      match nextFit regex text (text.length + 1) 0 with
      | some (start, stop) => some (text.take start, text.drop stop)
      | Option.none => some (text, [])
  | _ => if text.isEmpty then Option.none else some (text, [])

end Gap

/-- A text in place of a part that fits: an ampersand stands for that part. -/
def replacement (found : List Char) : List Char → List Char
  | '\\' :: '&' :: rest => '&' :: replacement found rest
  | '\\' :: '\\' :: rest => '\\' :: replacement found rest
  | '&' :: rest => found ++ replacement found rest
  | c :: rest => c :: replacement found rest
  | [] => []

/-- Puts a text in place of what fits, once or everywhere, and counts how often. Nothing at all fits
only where no part has just been replaced. -/
def replaceFits (regex : Regex) (other : List Char) (isAll : Bool) (text : List Char) :
    List Char × Nat :=
  go (2 * text.length + 2) 0 none
where
  go : Nat → (start : Nat) → (last : Option Nat) → List Char × Nat
    | 0, start, _ => (text.drop start, 0)
    | fuel + 1, start, last =>
      match regex.find? {} text start with
      | none => (text.drop start, 0)
      | some found =>
        let before := (text.take found.start).drop start
        let isEmpty := found.start == found.stop
        let kept := if isEmpty then (text.drop found.stop).take 1 else []
        if isEmpty ∧ last = some found.start then
          if text.length ≤ found.stop then (before, 0)
          else
            let (rest, count) := go fuel (found.stop + 1) none
            (before ++ kept ++ rest, count)
        else
          let put := replacement ((text.take found.stop).drop found.start) other
          if !isAll then (before ++ put ++ text.drop found.stop, 1)
          else if isEmpty ∧ text.length ≤ found.stop then (before ++ put, 1)
          else
            let (rest, count) := if isEmpty then go fuel (found.stop + 1) none
              else go fuel found.stop (some found.stop)
            (before ++ put ++ kept ++ rest, count + 1)

end BoardDebug.Build.Shell.Record
