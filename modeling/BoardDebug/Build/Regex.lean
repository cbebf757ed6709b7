import BoardDebug.Build.CharClass

namespace BoardDebug.Build

/-- A condition on the place between two characters. -/
inductive Edge where
  | lineStart
  | lineEnd
  | textStart
  | textEnd
  | wordStart
  | wordEnd
  /-- The beginning or the end of a word. -/
  | wordEdge
  | noWordEdge
  /-- No word goes on from what is before. -/
  | behindWord
  /-- No word goes on with what comes next. -/
  | beforeWord
deriving DecidableEq

/-- A description of texts. -/
inductive Regex where
  | empty
  | any
  | among (isNot : Bool) (ranges : CharRanges)
  | edge (kind : Edge)
  | both (first second : Regex)
  | either (first second : Regex)
  | repeated (body : Regex) (least : Nat) (most : Option Nat)
  /-- A part that is remembered under a number. -/
  | group (number : Nat) (body : Regex)
  /-- The text of a part that was remembered. -/
  | again (number : Nat)

namespace Regex

/-- How texts are looked at. -/
structure View where
  /-- Whether large and small letters are the same. -/
  ignoresCase : Bool := false
  /-- Whether lines inside a text have beginnings and ends. -/
  hasLines : Bool := false
  /-- Whether the text is the beginning of a line. -/
  startsLine : Bool := true

/-- A place in a text, and where the parts were that are remembered. -/
structure Place where
  /-- What comes before, the nearest first. -/
  before : List Char
  rest : List Char
  index : Nat
  parts : List (Nat × Nat × Nat) := []

namespace Place

/-- The first and last place of a part, the last time that it was met. -/
def part? (place : Place) (number : Nat) : Option (Nat × Nat) :=
  (place.parts.find? fun (n, _) => n = number).map (·.2)

def remember (place : Place) (number start : Nat) : Place :=
  { place with
    parts := (number, start, place.index) :: place.parts.filter fun (n, _) => n ≠ number }

/-- Steps over the next character. -/
def step (place : Place) (c : Char) (rest : List Char) : Place :=
  { place with before := c :: place.before, rest, index := place.index + 1 }

end Place

def isWordChar (c : Option Char) : Bool :=
  c.any CharRanges.word.contains

/-- Whether a condition holds of a place. -/
def holdsAt (view : View) (place : Place) (kind : Edge) : Bool :=
  let (before, after) := (place.before.head?, place.rest.head?)
  let isStart := before.isNone && view.startsLine
  match kind with
  | .textStart => isStart
  | .textEnd => after.isNone
  | .lineStart => isStart || view.hasLines && before == some '\n'
  | .lineEnd => after.isNone || view.hasLines && after == some '\n'
  | .wordStart => !isWordChar before && isWordChar after
  | .wordEnd => isWordChar before && !isWordChar after
  | .wordEdge => isWordChar before != isWordChar after
  | .noWordEdge => isWordChar before == isWordChar after
  | .behindWord => !isWordChar before
  | .beforeWord => !isWordChar after

def fits (view : View) (isNot : Bool) (ranges : CharRanges) (c : Char) : Bool :=
  let isIn := ranges.contains c ||
    view.ignoresCase && (ranges.contains c.toLower || ranges.contains c.toUpper)
  isIn != isNot

def isSame (view : View) (a b : Char) : Bool :=
  a == b || view.ignoresCase && a.toLower == b.toLower

/-- The one of two ends that lies further on, and the first one if they are the same. The second one
is not looked for if the first one is the end of the text. -/
def further (first : Option Place) (second : Unit → Option Place) : Option Place :=
  match first with
  | none => second ()
  | some a =>
    if a.rest.isEmpty then some a
    else
      match second () with
      | some b => if a.index < b.index then some b else some a
      | none => some a

/-- Repeats a step, as often as possible first. -/
def repeatStep (step : (Place → Option Place) → Place → Option Place) (least : Nat)
    (most : Option Nat) (goOn : Place → Option Place) : Nat → Nat → Place → Option Place
  | 0, count, place => if least ≤ count then goOn place else none
  | fuel + 1, count, place =>
    let more := if most.any (· ≤ count) then none
      else step
        (fun next =>
          if next.index = place.index ∧ least ≤ count then none
          else repeatStep step least most goOn fuel (count + 1) next)
        place
    if least ≤ count then further more fun _ => goOn place else more

/-- Takes a text again, if it comes next. -/
def takeAgain (view : View) : (text : List Char) → Place → Option Place
  | [], place => some place
  | c :: text, place =>
    match place.rest with
    | d :: rest => if isSame view c d then takeAgain view text (place.step d rest) else none
    | [] => none

/-- The furthest place to which a text goes on as is described, from where `goOn` goes on. -/
def go (view : View) (text : List Char) : Regex → (Place → Option Place) → Place → Option Place
  | .empty, goOn, place => goOn place
  | .any, goOn, place =>
    match place.rest with
    | c :: rest => goOn (place.step c rest)
    | [] => none
  | .among isNot ranges, goOn, place =>
    match place.rest with
    | c :: rest => if fits view isNot ranges c then goOn (place.step c rest) else none
    | [] => none
  | .edge kind, goOn, place => if holdsAt view place kind then goOn place else none
  | .both first second, goOn, place => go view text first (go view text second goOn) place
  | .either first second, goOn, place =>
    further (go view text first goOn place) fun _ => go view text second goOn place
  | .repeated body least most, goOn, place =>
    repeatStep (go view text body) least most goOn (place.rest.length + least + 1) 0 place
  | .group number body, goOn, place =>
    go view text body (fun next => goOn (next.remember number place.index)) place
  | .again number, goOn, place =>
    match place.part? number with
    | some (first, last) => (takeAgain view ((text.take last).drop first) place).bind goOn
    | none => none

/-- Where a text fits a description: the first and last place, and those of its parts. -/
structure Found where
  start : Nat
  stop : Nat
  parts : List (Nat × Nat × Nat)

namespace Found

def part? (found : Found) (number : Nat) : Option (Nat × Nat) :=
  if number = 0 then some (found.start, found.stop)
  else (found.parts.find? fun (n, _) => n = number).map (·.2)

/-- The text of a part, which may be empty. -/
def text (found : Found) (whole : List Char) (number : Nat) : List Char :=
  match found.part? number with
  | some (first, last) => (whole.take last).drop first
  | none => []

end Found

/-- The longest text at a place that fits. -/
def foundAt? (regex : Regex) (view : View) (text : List Char) (place : Place) : Option Found :=
  (go view text regex some place).map fun last => ⟨place.index, last.index, last.parts⟩

/-- The first place from a given one on at which a text fits. -/
def search (regex : Regex) (view : View) (text : List Char) (before : List Char) (index : Nat) :
    (rest : List Char) → Option Found
  | [] => regex.foundAt? view text ⟨before, [], index, []⟩
  | c :: rest =>
    match regex.foundAt? view text ⟨before, c :: rest, index, []⟩ with
    | some found => some found
    | none => regex.search view text (c :: before) (index + 1) rest

/-- The first text that fits, from a place on. -/
def find? (regex : Regex) (view : View) (text : List Char) (start : Nat) : Option Found :=
  regex.search view text (text.take start).reverse start (text.drop start)

end Regex

end BoardDebug.Build
