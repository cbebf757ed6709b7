import BoardDebug.Build.CharClass
import BoardDebug.Files

namespace BoardDebug.Build.Shell

/-- A pattern for texts. Characters that are quoted stand for themselves. -/
abbrev Pattern := List (Char × Bool)

namespace Pattern

/-- The class of characters whose name comes next, between colons and brackets. -/
def class? (pattern : Pattern) : Option (CharRanges × Pattern) :=
  match pattern with
  | ('[', false) :: (':', _) :: rest =>
    let name := rest.takeWhile fun (c, _) => c ≠ ':'
    match rest.drop name.length with
    | (':', _) :: (']', _) :: rest =>
      (CharRanges.ofClass? (String.ofList (name.map (·.1)))).map fun ranges => (ranges, rest)
    | _ => none
  | _ => none

/-- The ranges of characters behind an opening bracket, and what follows the closing one. -/
def ranges? (isFirst : Bool) : Nat → Pattern → Option (CharRanges × Pattern)
  | 0, _ => none
  | _, [] => none
  | fuel + 1, (low, q) :: rest =>
    if low = ']' ∧ !q ∧ !isFirst then some ([], rest)
    else
      match class? ((low, q) :: rest), rest with
      | some (found, rest), _ =>
        (ranges? false fuel rest).map fun (ranges, rest) => (found ++ ranges, rest)
      | none, ('-', false) :: (high, r) :: others =>
        if high = ']' ∧ !r then some ([(low, low), ('-', '-')], others)
        else (ranges? false fuel others).map fun (ranges, rest) => ((low, high) :: ranges, rest)
      | none, rest =>
        (ranges? false fuel rest).map fun (ranges, rest) => ((low, low) :: ranges, rest)

/-- A part of a pattern that stands for one character. -/
inductive One where
  | any
  | char (c : Char)
  | ranges (isNot : Bool) (among : CharRanges)

def One.accepts (c : Char) : One → Bool
  | any => true
  | char d => c == d
  | ranges isNot among => among.contains c != isNot

/-- A bracket that opens a set of characters; one that is never closed stands for itself. -/
def bracket (rest : Pattern) : One × Pattern :=
  let (isNot, inner) := match rest with
    | ('!', false) :: inner => (true, inner)
    | inner => (false, inner)
  match ranges? true (inner.length + 1) inner with
  | some (among, rest) => (.ranges isNot among, rest)
  | none => (.char '[', rest)

/-- The parts of a pattern; `none` stands for any characters, however many. -/
def parts : Nat → Pattern → List (Option One)
  | 0, _ => []
  | _, [] => []
  | fuel + 1, ('*', false) :: rest => none :: parts fuel rest
  | fuel + 1, ('?', false) :: rest => some .any :: parts fuel rest
  | fuel + 1, ('[', false) :: rest =>
    let (one, rest) := bracket rest
    some one :: parts fuel rest
  | fuel + 1, (c, _) :: rest => some (.char c) :: parts fuel rest

/-- Whether something holds of an end of a text. -/
def anyEnd (holds : List Char → Bool) : List Char → Bool
  | [] => holds []
  | c :: rest => holds (c :: rest) || anyEnd holds rest

/-- Whether parts of a pattern stand for a text. -/
def fits : List (Option One) → List Char → Bool
  | [], text => text.isEmpty
  | some _ :: _, [] => false
  | some one :: rest, c :: text => one.accepts c && fits rest text
  | none :: rest, text => anyEnd (fits rest) text

/-- Whether a pattern stands for a text as a whole. -/
def accepts (pattern : Pattern) (text : List Char) : Bool :=
  fits (parts pattern.length pattern) text

/-- Whether a pattern may stand for more than one text. -/
def isOpen (pattern : Pattern) : Bool :=
  pattern.any fun (c, isQuoted) => !isQuoted && (c == '*' || c == '?' || c == '[')

def text (pattern : Pattern) : List Char :=
  pattern.map (·.1)

/-- The pattern with the other sign for characters that are not in a set. -/
def turned : Pattern → Pattern
  | ('[', false) :: ('^', false) :: rest => ('[', false) :: ('!', false) :: turned rest
  | c :: rest => c :: turned rest
  | [] => []

/-- Whether a pattern stands for a text, where large and small letters may count as the same. -/
def acceptsAs (ignoresCase : Bool) (pattern : Pattern) (text : String) : Bool :=
  if ignoresCase then
    accepts (pattern.map fun (c, isQuoted) => (c.toLower, isQuoted)) (text.toList.map Char.toLower)
  else pattern.accepts text.toList

/-- How patterns stand for files. -/
structure Manner where
  /-- Whether a directory itself and the one above it have names in it. -/
  isDotted : Bool := false
  /-- Whether names need not be named so that begin with a point. -/
  showsHidden : Bool := false
  ignoresCase : Bool := false
  /-- Whether two stars stand for a way down. -/
  isDeep : Bool := false

/-- The paths of all that lies below a directory, and whether it is a directory too. -/
def below (files : Files) (showsHidden : Bool) : Nat → (start : String) → List (String × Bool)
  | 0, _ => []
  | fuel + 1, start =>
    match files.find (if start.isEmpty then "." else start) with
    | .ok (place, ⟨.directory, _, _⟩) =>
      let names := (files.names place).filter fun name => showsHidden || !name.startsWith "."
      names.flatMap fun name =>
        match files.findLink (start ++ name) with
        | .ok (_, ⟨.directory, _, _⟩) =>
          (start ++ name, true) :: below files showsHidden fuel (start ++ name ++ "/")
        | _ => [(start ++ name, false)]
    | _ => []

/-- How deep directories are looked through. -/
def maxDepth : Nat := 100

/-- The paths of files that a pattern stands for, in their order. -/
def paths (files : Files) (manner : Manner) (pattern : Pattern) : List String :=
  (go (pattern.splitOnP fun (c, _) => c = '/') "").mergeSort
where
  isWay (part : Pattern) : Bool :=
    manner.isDeep && part == [('*', false), ('*', false)]
  /-- The ways down from a directory, or all that is there if nothing comes behind them. -/
  ways (isLast : Bool) (before : String) : List String :=
    let found := below files manner.showsHidden maxDepth before
    if isLast then (if before.isEmpty then [] else [before]) ++ found.map (·.1)
    else before :: (found.filter (·.2)).map (·.1 ++ "/")
  go : List Pattern → String → List String
    | [], before => [before]
    | part :: rest, before =>
      let join (name : String) := before ++ name ++ (if rest.isEmpty then "" else "/")
      if isWay part then
        if rest.head?.any isWay then go rest before
        else (ways rest.isEmpty before).flatMap (go rest)
      else if part.isOpen then
        match files.find (if before.isEmpty then "." else before) with
        | .ok (place, ⟨.directory, _, _⟩) =>
          let names := (if manner.isDotted then [".", ".."] else []) ++ files.names place
          let found := names.filter fun name =>
            part.acceptsAs manner.ignoresCase name &&
              (manner.showsHidden || !name.startsWith "." || part.head?.any (·.1 == '.'))
          found.flatMap fun name => go rest (join name)
        | _ => []
      else
        let path := join (String.ofList part.text)
        if rest.isEmpty ∧ !(files.findLink path).isOk then [] else go rest path

end Pattern

end BoardDebug.Build.Shell
