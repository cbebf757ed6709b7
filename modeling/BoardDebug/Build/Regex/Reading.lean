import BoardDebug.Build.Regex
import BoardDebug.Text.Number

namespace BoardDebug.Build.Regex

/-- A way to spell descriptions. -/
structure Spelling where
  /-- Whether signs mean something only behind a backslash. -/
  isBasic : Bool
  /-- Whether a sign that repeats nothing stands for nothing. -/
  freesStart : Bool := false
  /-- Whether braces without a count stand for themselves. -/
  freesCounts : Bool := false
  /-- Whether a bracket stands for itself that closes nothing. -/
  freesClosing : Bool := true

namespace Spelling

def basic : Spelling :=
  { isBasic := true }

def extended : Spelling :=
  { isBasic := false }

/-- The basic way for those who refuse little. -/
def looseBasic : Spelling :=
  { isBasic := true, freesStart := true }

/-- The extended way for those who refuse little. -/
def loose : Spelling :=
  { isBasic := false, freesStart := true, freesCounts := true }

/-- The extended way for those who refuse more. -/
def strict : Spelling :=
  { isBasic := false, freesClosing := false }

end Spelling

/-- Why a description cannot be read. -/
inductive Fault where
  | openBracket
  /-- There is nothing behind a bracket. -/
  | bareBracket
  | openGroup
  | closedGroup
  | openCount
  | count
  /-- The lower number of a count is not the lower one. -/
  | turnedCount
  | nothingToRepeat
  | trailingBackslash
  | noGroup
  | rangeEnd
  | className
  | tooLarge
deriving DecidableEq

def Fault.message : Fault → String
  | openBracket => "Unmatched [, [^, [:, [., or [="
  | bareBracket => "Invalid regular expression"
  | openGroup => "Unmatched ( or \\("
  | closedGroup => "Unmatched ) or \\)"
  | openCount => "Unmatched \\\x7b"
  | count => "Invalid content of \\\x7b\\\x7d"
  | turnedCount => "Invalid content of \\\x7b\\\x7d"
  | nothingToRepeat => "Invalid preceding regular expression"
  | trailingBackslash => "Trailing backslash"
  | noGroup => "Invalid back reference"
  | rangeEnd => "Invalid range end"
  | className => "Invalid character class name"
  | tooLarge => "Regular expression too big"

/-- What is left of a description, and how many groups have been opened and closed. -/
structure Reader where
  rest : List Char
  groups : Nat := 0
  closed : List Nat := []
  /-- Signs that repeat nothing, the latest first. -/
  idle : List String := []

abbrev Reading := StateT Reader (Except Fault)

namespace Reading

def ahead : Reading (List Char) := do
  return (← get).rest

def drop (count : Nat) : Reading Unit :=
  modify fun r => { r with rest := r.rest.drop count }

/-- An item between brackets: a character, or a class with its signs. -/
inductive Item where
  | char (c : Char)
  | ranges (ranges : CharRanges)

/-- The item at the front of what is between brackets. -/
def item (text : List Char) : Except Fault (Item × List Char) :=
  match text with
  | '[' :: sign :: rest =>
    if sign = ':' ∨ sign = '.' ∨ sign = '=' then
      let name := rest.takeWhile (· ≠ sign)
      if (rest.drop name.length).take 2 = [sign, ']'] then
        let behind := rest.drop (name.length + 2)
        if sign = ':' then
          match CharRanges.ofClass? (String.ofList name) with
          | some ranges => .ok (.ranges ranges, behind)
          | none => .error .className
        else
          match name with
          | [c] => .ok (.char c, behind)
          | _ => .error .className
      else .error .openBracket
    else .ok (.char '[', sign :: rest)
  | c :: rest => .ok (.char c, rest)
  | [] => .error .openBracket

/-- The ranges between brackets, up to the closing one. -/
def bracketItems : Nat → (isFirst : Bool) → List Char → Except Fault (CharRanges × List Char)
  | 0, _, _ => .error .openBracket
  | fuel + 1, isFirst, text => do
    match text with
    | [] => throw .openBracket
    | ']' :: rest =>
      if isFirst then more fuel text else return ([], rest)
    | text => more fuel text
where
  more (fuel : Nat) (text : List Char) : Except Fault (CharRanges × List Char) := do
    let (first, rest) ← item text
    match first, rest with
    | .char low, '-' :: next :: rest =>
      if next = ']' then
        let (others, rest) ← bracketItems fuel false ('-' :: next :: rest)
        return ((low, low) :: others, rest)
      else
        match ← item (next :: rest) with
        | (.char high, rest) =>
          if high < low then throw .rangeEnd
          let (others, rest) ← bracketItems fuel false rest
          return ((low, high) :: others, rest)
        | (.ranges _, _) => throw .rangeEnd
    | .char c, rest =>
      let (others, rest) ← bracketItems fuel false rest
      return ((c, c) :: others, rest)
    | .ranges ranges, rest =>
      let (others, rest) ← bracketItems fuel false rest
      return (ranges ++ others, rest)

/-- The set behind an opening bracket. -/
def bracket : Reading Regex := do
  let text ← ahead
  let (isNot, inner) := match text with
    | '^' :: rest => (true, rest)
    | rest => (false, rest)
  if inner.isEmpty then throw .bareBracket
  match bracketItems (inner.length + 1) true inner with
  | .ok (ranges, rest) =>
    modify fun r => { r with rest }
    return .among isNot ranges
  | .error fault => throw fault

/-- The largest count that is allowed. -/
def maxCount : Nat := 32767

/-- The counts between braces, and what is behind them. -/
def counts? (spelling : Spelling) (text : List Char) :
    Except Fault (Nat × Option Nat × List Char) :=
  let (low, rest) := text.span Char.isDigit
  let close : List Char := if spelling.isBasic then ['\\', '\x7d'] else ['\x7d']
  let (high, rest) := match rest with
    | ',' :: rest =>
      let (high, rest) := rest.span Char.isDigit
      (some high, rest)
    | rest => (none, rest)
  if rest.isEmpty then .error .openCount
  else if !close.isPrefixOf rest ∨ (low.isEmpty ∧ high.isNone) then .error .count
  else
    let least := (Text.digits? 10 low).getD 0
    let most := match high with
      | none => some least
      | some digits => Text.digits? 10 digits
    if maxCount < least ∨ most.any (maxCount < ·) then .error .tooLarge
    else if most.any (· < least) then .error .turnedCount
    else .ok (least, most, rest.drop close.length)

/-- Takes the signs behind something that say how often it is repeated. -/
def repetitions (spelling : Spelling) : Nat → Regex → Reading Regex
  | 0, body => return body
  | fuel + 1, body => do
    let go (count : Nat) (least : Nat) (most : Option Nat) : Reading Regex := do
      drop count
      repetitions spelling fuel (.repeated body least most)
    let text ← ahead
    let isAgain := spelling.isBasic && !spelling.freesStart && body matches .repeated _ _ _
    let isSign := text.head? = some '*' || text.take 2 = ['\\', '\x7b']
    if isAgain ∧ isSign then throw .nothingToRepeat
    match spelling.isBasic, text with
    | _, '*' :: _ => go 1 0 none
    | true, '\\' :: '+' :: _ => go 2 1 none
    | true, '\\' :: '?' :: _ => go 2 0 (some 1)
    | false, '+' :: _ => go 1 1 none
    | false, '?' :: _ => go 1 0 (some 1)
    | true, '\\' :: '\x7b' :: rest => counted fuel (counts? spelling rest) body
    | false, '\x7b' :: rest =>
      match counts? spelling rest with
      | .ok found => counted fuel (.ok found) body
      | .error fault =>
        if spelling.freesCounts ∧ (fault = .count ∨ fault = .openCount) then return body
        else throw fault
    | _, _ => return body
where
  counted (fuel : Nat) (found : Except Fault (Nat × Option Nat × List Char)) (body : Regex) :
      Reading Regex := do
    match found with
    | .ok (least, most, rest) =>
      modify fun r => { r with rest }
      repetitions spelling fuel (.repeated body least most)
    | .error fault => throw fault

def one (c : Char) : Regex :=
  .among false [(c, c)]

/-- What a letter behind a backslash stands for. -/
def letter? (c : Char) : Option Regex :=
  match c with
  | 'w' => some (.among false CharRanges.word)
  | 'W' => some (.among true CharRanges.word)
  | 's' => some (.among false [(' ', ' '), ('\t', '\r')])
  | 'S' => some (.among true [(' ', ' '), ('\t', '\r')])
  | 'b' => some (.edge .wordEdge)
  | 'B' => some (.edge .noWordEdge)
  | '<' => some (.edge .wordStart)
  | '>' => some (.edge .wordEnd)
  | '\x60' => some (.edge .textStart)
  | '\x27' => some (.edge .textEnd)
  | _ => none

/-- Whether a sequence ends in front of a text. -/
def endsSequence (spelling : Spelling) (depth : Nat) (text : List Char) : Bool :=
  match spelling.isBasic, text with
  | _, [] => true
  | true, '\\' :: '|' :: _ => true
  | true, '\\' :: ')' :: _ => true
  | false, '|' :: _ => true
  | false, ')' :: _ => 0 < depth || !spelling.freesClosing
  | _, _ => false

mutual

/-- One or more sequences between bars. -/
def alternatives (spelling : Spelling) : Nat → (depth : Nat) → Reading Regex
  | 0, _ => return .empty
  | fuel + 1, depth => do
    let first ← sequence spelling fuel depth true .empty
    match spelling.isBasic, ← ahead with
    | true, '\\' :: '|' :: _ =>
      drop 2
      return .either first (← alternatives spelling fuel depth)
    | false, '|' :: _ =>
      drop 1
      return .either first (← alternatives spelling fuel depth)
    | _, _ => return first

/-- Things one after the other. -/
def sequence (spelling : Spelling) : Nat → (depth : Nat) → (isFirst : Bool) → Regex → Reading Regex
  | 0, _, _, before => return before
  | fuel + 1, depth, isFirst, before => do
    let text ← ahead
    if endsSequence spelling depth text then return before
    else
      let thing ← single spelling fuel depth isFirst text
      let isStart := match thing with
        | .edge .lineStart => isFirst
        | _ => false
      let thing ← if !isStart then repetitions spelling (text.length + 1) thing else pure thing
      sequence spelling fuel depth isStart (.both before thing)

/-- A single character, set or group. -/
def single (spelling : Spelling) : Nat → (depth : Nat) → (isFirst : Bool) → List Char →
    Reading Regex
  | 0, _, _, _ => return .empty
  | fuel + 1, depth, isFirst, text => do
    match text with
    | '[' :: _ =>
      drop 1
      bracket
    | '.' :: _ =>
      drop 1
      return .any
    | '^' :: _ =>
      drop 1
      return if !spelling.isBasic ∨ isFirst then .edge .lineStart else one '^'
    | '$' :: rest =>
      drop 1
      return if !spelling.isBasic ∨ endsSequence spelling depth rest then .edge .lineEnd
        else one '$'
    | '*' :: rest =>
      drop 1
      if spelling.isBasic then return one '*'
      else idle spelling fuel depth isFirst "*" rest
    | ['\\'] => throw .trailingBackslash
    | '\\' :: c :: _ =>
      drop 2
      if c = '(' ∧ spelling.isBasic then group spelling fuel depth
      else if c = ')' ∧ spelling.isBasic then throw .closedGroup
      else if c = '\x7b' ∧ spelling.isBasic then
        if isFirst then throw .nothingToRepeat else return one c
      else
        match Text.digit? 10 c, letter? c with
        | some n, _ =>
          if n = 0 then return one c
          else if (← get).closed.contains n then return .again n
          else throw .noGroup
        | none, some found => return found
        | none, none => return one c
    | '(' :: _ =>
      drop 1
      if !spelling.isBasic then group spelling fuel depth else return one '('
    | '+' :: rest =>
      drop 1
      if spelling.isBasic then return one '+'
      else idle spelling fuel depth isFirst "+" rest
    | '?' :: rest =>
      drop 1
      if spelling.isBasic then return one '?'
      else idle spelling fuel depth isFirst "?" rest
    | '\x7b' :: rest =>
      drop 1
      match spelling.isBasic || !isFirst, counts? spelling rest with
      | true, _ => return one '\x7b'
      | false, .ok (_, _, rest) =>
        modify fun r => { r with rest }
        idle spelling fuel depth isFirst "\x7b...\x7d" rest
      | false, .error _ =>
        if spelling.freesCounts then return one '\x7b' else throw .nothingToRepeat
    | c :: _ =>
      drop 1
      return one c
    | [] => return .empty

/-- What comes behind a sign that repeats nothing, if that is allowed. -/
def idle (spelling : Spelling) : Nat → (depth : Nat) → (isFirst : Bool) → (sign : String) →
    List Char → Reading Regex
  | 0, _, _, _, _ => return .empty
  | fuel + 1, depth, isFirst, sign, rest => do
    if !spelling.freesStart then throw .nothingToRepeat
    modify fun r => { r with idle := sign :: r.idle }
    if endsSequence spelling depth rest then return .empty
    else single spelling fuel depth isFirst rest

/-- A part in brackets, behind the opening one. -/
def group (spelling : Spelling) : Nat → (depth : Nat) → Reading Regex
  | 0, _ => return .empty
  | fuel + 1, depth => do
    let number := (← get).groups + 1
    modify fun r => { r with groups := number }
    let body ← alternatives spelling fuel (depth + 1)
    let text ← ahead
    let close : List Char := if spelling.isBasic then ['\\', ')'] else [')']
    if close.isPrefixOf text then
      modify fun r => { r with rest := text.drop close.length, closed := number :: r.closed }
      return .group number body
    else throw .openGroup

end

end Reading

/-- The description that a text spells, and what its reader met. -/
def readAll (spelling : Spelling) (text : List Char) : Except Fault (Regex × Reader) :=
  match (Reading.alternatives spelling (8 * text.length + 8) 0).run { rest := text } with
  | .ok (regex, r) => if r.rest.isEmpty then .ok (regex, r) else .error .closedGroup
  | .error fault => .error fault

/-- The description that a text spells, with the number of its groups. -/
def read (spelling : Spelling) (text : List Char) : Except Fault (Regex × Nat) :=
  (readAll spelling text).map fun (regex, r) => (regex, r.groups)

end BoardDebug.Build.Regex
