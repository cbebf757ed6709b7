import BoardDebug.Build.Shell.Parameter
import BoardDebug.Build.Shell.Word

namespace BoardDebug.Build.Shell.Word

/-- The alternatives between braces, behind the first of them, and what follows the last one. -/
def alternatives? : (depth : Nat) → (begun : Word) → Word → Option (List Word × Word)
  | _, _, [] => none
  | depth, begun, piece :: rest =>
    let goOn (depth : Nat) := alternatives? depth (begun ++ [piece]) rest
    match piece with
    | .char '\x7b' false => goOn (depth + 1)
    | .char '\x7d' false => if depth = 0 then some ([begun], rest) else goOn (depth - 1)
    | .char ',' false =>
      if depth = 0 then
        (alternatives? 0 [] rest).map fun (others, rest) => (begun :: others, rest)
      else goOn depth
    | _ => goOn depth

def ofText (text : List Char) : Word :=
  text.map (.char · false)

/-- The numbers from one to another. -/
def steps (first last step : Int) : List Int :=
  let step := if step = 0 then 1 else step.natAbs
  let count := (last - first).natAbs / step
  (List.range (count + 1)).map fun (n : Nat) =>
    if first ≤ last then first + n * step else first - n * step

/-- The words that two ends of a sequence with two points between them stand for. -/
def sequence? (text : List Char) : Option (List Word) := do
  let parts := text.splitOnP (· = '.')
  let (first, last, step) ← match parts with
    | [first, [], last] => some (first, last, [])
    | [first, [], last, [], step] => some (first, last, step)
    | _ => none
  let step ← if step.isEmpty then some 1 else (String.ofList step).toInt?
  match first, last with
  | [a], [b] =>
    if a.isAlpha ∧ b.isAlpha then
      some ((steps a.toNat b.toNat step).map fun n => ofText [.ofNat n.toNat])
    else numbers first last step
  | first, last => numbers first last step
where
  numbers (first last : List Char) (step : Int) : Option (List Word) := do
    let a ← (String.ofList first).toInt?
    let b ← (String.ofList last).toInt?
    let isPadded (text : List Char) : Bool :=
      1 < (Text.dropSign text).length && (Text.dropSign text).head? == some '0'
    let width := if isPadded first || isPadded last then max first.length last.length else 0
    some ((steps a b step).map fun n =>
      let sign := if n < 0 then ['-'] else []
      ofText (sign ++ Text.zeroFill (width - sign.length) (toString n.natAbs).toList))

/-- The words that a word with braces stands for. -/
def braces : Nat → Word → List Word
  | 0, word => [word]
  | fuel + 1, word =>
    let before := word.takeWhile fun piece => !(piece matches .char '\x7b' false)
    match word.drop before.length with
    | [] => [word]
    | brace :: rest =>
      let literal := (braces fuel rest).map fun after => before ++ brace :: after
      match alternatives? 0 [] rest with
      | none => literal
      | some ([single], after) =>
        match single.literal?.bind sequence? with
        | some words => joined before words (braces fuel after)
        | none => literal
      | some (words, after) => joined before (words.flatMap (braces fuel)) (braces fuel after)
where
  joined (before : Word) (words after : List Word) : List Word :=
    words.flatMap fun word => after.map fun rest => before ++ word ++ rest

end BoardDebug.Build.Shell.Word

namespace BoardDebug.Build.Shell.Script

/-- What the commands of a script write, without the line ends behind it. -/
def outputAtoms (runText : Source → Script Unit) (script : Source) (isQuoted : Bool) :
    Script (List Atom) := do
  let flow ← addFlow (.bytes [])
  let numbers := joinNumber 1 flow (← get).numbers
  let before := (← get).status
  let bold : Script Unit := do
    modify fun s =>
      if s.isBash ∧ !s.features.contains "inherit_errexit" then
        { s with options := s.options.filter (· ≠ 'e') }
      else s
    deeper (runText script)
  withNumbers numbers (apart runText bold)
  modify fun s => { s with outputStatus := some s.status, status := before }
  let written := (← get).machine.available flow
  let text := Octets.ofBytes (written.filter (· ≠ 0))
  return Atom.ofValue isQuoted (text.reverse.dropWhile (· = '\n')).reverse

/-- The path of what the commands of a script write. -/
def channelAtoms (runText : Source → Script Unit) (script : Source) : Script (List Atom) := do
  let flow ← addFlow (.bytes [])
  let s ← get
  withNumbers (joinNumber 1 flow s.numbers) (apart runText (deeper (runText script)))
  let taken := (List.range 64).reverse.find? fun n => !s.numbers.any fun (m, _) => m == n
  let number := taken.getD 63
  modify fun after =>
    { after with numbers := joinNumber number flow after.numbers, status := s.status }
  return ("/dev/fd/" ++ toString number).toList.map (.char · true)

/-- What a word says, part by part. `runText` runs scripts inside it. -/
def atoms (runText : Source → Script Unit) : Nat → Word → Script (List Atom)
  | 0, _ => throw .stuck
  | fuel + 1, word => do
    let parts ← word.mapM fun
      | .char c isQuoted => return [Atom.char c isQuoted]
      | .quotes => return [.quotes]
      | .parameter name change isQuoted =>
        parameterAtoms (atoms runText fuel) name change isQuoted
      | .length name => do
        return (toString (← lengthOf (atoms runText fuel) name)).toList.map (.char · true)
      | .output script isQuoted => outputAtoms runText script isQuoted
      | .sum expression => do
        let n ← evaluateWord (atoms runText fuel) expression
        return (toString n).toList.map (.char · true)
      | .items text => return ('(' :: text ++ [')']).map (.char · true)
      | .channel script _ => channelAtoms runText script
    return parts.flatten

/-- How deep words may be nested. -/
def maxNesting : Nat := 100

/-- Whether a word is the value of a name, in which homes may stand behind colons too. -/
inductive Spot where
  | word
  | value
deriving DecidableEq

/-- The path of somebody's home. -/
def home? (s : State) (user : String) : Option String :=
  match user, s.isBash with
  | "", isBash => (s.text? "HOME").orElse fun _ => if isBash then some "/root" else none
  | "root", _ => some "/root"
  | "+", true => some s.here
  | "-", true => s.text? "OLDPWD"
  | _, _ => none

/-- A word with homes in place of tildes. -/
def withHomes (s : State) (spot : Spot) : (isStart : Bool) → Nat → Word → Word
  | _, 0, word => word
  | _, _, [] => []
  | isStart, fuel + 1, piece :: rest =>
    match piece with
    | .char '~' false =>
      let ends (piece : Piece) : Bool := match piece with
        | .char '/' false => true
        | .char ':' false => spot = .value
        | _ => false
      let user := rest.takeWhile (!ends ·)
      match if isStart then Word.literal? user else none with
      | some name =>
        match home? s (String.ofList name) with
        | some path =>
          path.toList.map (.char · true) ++ withHomes s spot false fuel (rest.drop user.length)
        | none => piece :: withHomes s spot false fuel rest
      | none => piece :: withHomes s spot false fuel rest
    | .char ':' false => piece :: withHomes s spot (spot = .value) fuel rest
    | piece => piece :: withHomes s spot false fuel rest

/-- What a word says that stands in a given spot. In one of the languages a word that looks like an
assignment has homes in its value too. -/
def atomsAt (runText : Source → Script Unit) (spot : Spot) (word : Word) : Script (List Atom) := do
  let s ← get
  let value := if s.isBash ∧ spot = .word then
      ((word.assignment? .bash).map (·.value)).getD word
    else word
  let start := word.take (word.length - value.length)
  let spot := if start.isEmpty then spot else .value
  atoms runText maxNesting (start ++ withHomes s spot true (value.length + 1) value)

/-- The text of a word that is not split. -/
def textOf (runText : Source → Script Unit) (word : Word) : Script String := do
  return String.ofList (Atom.text (← atomsAt runText .word word))

/-- The text of a word that a name is to stand for. -/
def valueOf (runText : Source → Script Unit) (word : Word) : Script String := do
  return String.ofList (Atom.text (← atomsAt runText .value word))

/-- The pattern that a word spells. -/
def patternOf (runText : Source → Script Unit) (word : Word) : Script Pattern := do
  let pattern := Atom.pattern (← atomsAt runText .word word)
  return if (← get).isBash then pattern.turned else pattern

/-- How patterns stand for files, as the options of the shell say. -/
def manner (s : State) : Pattern.Manner where
  isDotted := !s.isBash || !s.features.contains "globskipdots"
  showsHidden := s.features.contains "dotglob"
  ignoresCase := s.features.contains "nocaseglob"
  isDeep := s.features.contains "globstar"

/-- The paths that a field stands for, or the field itself. -/
def pathsOf (field : Pattern) : Script (List String) := do
  let s ← get
  let pattern := if s.isBash then field.turned else field
  if !pattern.isOpen ∨ s.has 'f' then return [String.ofList field.text]
  else
    match pattern.paths s.machine.files (manner s) with
    | [] =>
      if s.features.contains "failglob" then reject ("no match: " ++ String.ofList field.text)
      else if s.features.contains "nullglob" then return []
      else return [String.ofList field.text]
    | found => return found

/-- The fields of a word: it is split where it says something that is not quoted, and patterns for
files become their names. -/
def fieldsOf (runText : Source → Script Unit) (word : Word) : Script (List String) := do
  let words := if (← get).isBash then word.braces (word.length + 1) else [word]
  let fields ← words.mapM fun word => do
    return Fields.ofAtoms (← separators) (← atomsAt runText .word word)
  return (← fields.flatten.mapM pathsOf).flatten

end BoardDebug.Build.Shell.Script
