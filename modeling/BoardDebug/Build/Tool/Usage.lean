import BoardDebug.Build.Tool.Wording
import BoardDebug.Text.Number

namespace BoardDebug.Build.Tool

/-- The letters of multiples of a byte, each a thousand times the one before. -/
def multiples : List Char :=
  ['K', 'M', 'G', 'T', 'P', 'E', 'Z', 'Y']

/-- What a unit behind a number says that it is multiplied with. -/
def unit? (text : List Char) : Option Nat :=
  match text with
  | [] => some 1
  | ['b'] => some 512
  | c :: rest =>
    let power := multiples.idxOf c.toUpper + 1
    if power ≤ multiples.length ∧ (c.isUpper ∨ c = 'k' ∨ c = 'm') then
      match rest with
      | [] => some (Nat.pow 1024 power)
      | ['i', 'B'] => some (Nat.pow 1024 power)
      | ['B'] => some (Nat.pow 1000 power)
      | _ => none
    else none

/-- A number with a unit behind it or none. -/
def amount? (text : List Char) : Option Nat := do
  let (digits, unit) := text.span Char.isDigit
  return (← Text.digits? 10 digits) * (← unit? unit)

/-- Whether an option takes a text. -/
inductive Taking where
  | nothing
  | text
  /-- The text may be left out. -/
  | perhaps
deriving DecidableEq

/-- The options that a tool knows. -/
structure Manual where
  tool : String
  /-- The letters of short options. A colon behind a letter says that it takes a text, two that it
  may take one. -/
  letters : String
  /-- The words of long options, with the letters that they stand for. -/
  words : List (String × Taking × Char) := []
  /-- Whether options only count in front of all operands. -/
  inOrder : Bool := false
  /-- How the tool ends if it is misused. -/
  status : Nat := 1

/-- What the arguments of a tool say: the options with their texts, and the operands. -/
structure Usage where
  given : List (Char × String) := []
  operands : List String := []

namespace Usage

def has (usage : Usage) (letter : Char) : Bool :=
  usage.given.any fun (c, _) => c == letter

def hasAny (usage : Usage) (letters : String) : Bool :=
  usage.given.any fun (c, _) => letters.contains c

/-- The texts of an option, in order. -/
def texts (usage : Usage) (letter : Char) : List String :=
  usage.given.filterMap fun (c, text) => if c = letter then some text else none

def text? (usage : Usage) (letter : Char) : Option String :=
  (usage.texts letter).getLast?

/-- The last one given of some options. -/
def lastOf? (usage : Usage) (letters : String) : Option Char :=
  ((usage.given.filter fun (c, _) => letters.contains c).getLast?).map (·.1)

def give (letter : Char) (text : String) (usage : Usage) : Usage :=
  { usage with given := (letter, text) :: usage.given }

end Usage

namespace Manual

def taking? (manual : Manual) (letter : Char) : Option Taking :=
  if letter = ':' then none else go manual.letters.toList
where
  go : List Char → Option Taking
    | [] => none
    | c :: rest =>
      if c = letter then
        match rest with
        | ':' :: ':' :: _ => some .perhaps
        | ':' :: _ => some .text
        | _ => some .nothing
      else go rest

/-- The long option that a word spells, in full or by a beginning that only it has. -/
def word? (manual : Manual) (word : String) : Except String (String × Taking × Char) :=
  let known := manual.words ++ [("help", .nothing, '?'), ("version", .nothing, '?')]
  let (name, _) := parts word
  match known.find? fun (w, _) => w = name with
  | some found => .ok found
  | none =>
    match known.filter fun (w, _) => w.startsWith name with
    | [] => .error ("unrecognized option '--" ++ word ++ "'")
    | first :: others =>
      if others.all fun (_, meant) => meant = first.2 then .ok first
      else
        let names := (first :: others).map fun (w, _) => " '--" ++ w ++ "'"
        .error ("option '--" ++ word ++ "' is ambiguous; possibilities:" ++ String.join names)
where
  parts (word : String) : String × Option String :=
    match word.toList.span (· ≠ '=') with
    | (name, _ :: value) => (String.ofList name, some (String.ofList value))
    | (name, []) => (String.ofList name, none)

/-- What letters in one word say. One that takes a text takes the rest of the word or, if there is
none, the next word; the result says whether it did that. -/
def cluster (manual : Manual) (next : Option String) :
    List Char → Except String (List (Char × String) × Bool)
  | [] => .ok ([], false)
  | c :: rest =>
    match manual.taking? c with
    | none => .error ("invalid option -- '" ++ String.singleton c ++ "'")
    | some .nothing => do
      let (others, takesNext) ← cluster manual next rest
      return ((c, "") :: others, takesNext)
    | some .perhaps => .ok ([(c, String.ofList rest)], false)
    | some .text =>
      if !rest.isEmpty then .ok ([(c, String.ofList rest)], false)
      else
        match next with
        | some text => .ok ([(c, text)], true)
        | none => .error ("option requires an argument -- '" ++ String.singleton c ++ "'")

/-- A long option with the text that it takes; the result says whether it took the next word. -/
def long (manual : Manual) (next : Option String) (word : String) :
    Except String ((Char × String) × Bool) := do
  let (name, taking, letter) ← manual.word? word
  match taking, (word?.parts word).2, next with
  | .nothing, some _, _ => throw ("option '--" ++ name ++ "' doesn't allow an argument")
  | .text, none, none => throw ("option '--" ++ name ++ "' requires an argument")
  | .text, none, some next => return ((letter, next), true)
  | _, value, _ => return ((letter, value.getD ""), false)

def parse (manual : Manual) : Nat → List String → Except String Usage
  | 0, _ => .ok {}
  | _, [] => .ok {}
  | fuel + 1, word :: rest => do
    if word = "--" then return { operands := rest }
    else if word.startsWith "--" then
      let (option, takesNext) ← manual.long rest.head? (word.drop 2).toString
      let usage ← parse manual fuel (if takesNext then rest.tail else rest)
      return { usage with given := option :: usage.given }
    else if word.startsWith "-" ∧ word ≠ "-" then
      let (options, takesNext) ← manual.cluster rest.head? word.toList.tail
      let usage ← parse manual fuel (if takesNext then rest.tail else rest)
      return { usage with given := options ++ usage.given }
    else if manual.inOrder then return { operands := word :: rest }
    else
      let usage ← parse manual fuel rest
      return { usage with operands := word :: usage.operands }

/-- What arguments say. A tool that is asked to tell about itself does nothing else. -/
def usage (manual : Manual) (arguments : List String) : Work Usage := do
  match manual.parse (arguments.length + 1) arguments with
  | .error text => misuse manual.tool text manual.status
  | .ok usage => if usage.has '?' then Work.stop else return usage

end Manual

end BoardDebug.Build.Tool
