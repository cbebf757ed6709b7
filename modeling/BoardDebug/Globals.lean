import BoardDebug.Procedure

namespace BoardDebug

/-- Named words in increasing order of their names. -/
abbrev Globals := List (String × UInt32)

namespace Globals

def has (globals : Globals) (name : String) : Bool :=
  (Sorted.find? name globals).isSome

/-- The made-up name of the word in `place`: `?n`, and `?n.1`, `?n.2`, … when the earlier ones are
taken. -/
def placeName (place : Nat) : Nat → String
  | 0 => s!"?{place}"
  | suffix + 1 => s!"?{place}.{suffix + 1}"

/-- The first made-up name from `suffix` on that is free. As many names as there are words can be
taken, so one more is always enough. -/
def freeName (globals : Globals) (place : Nat) : Nat → Nat → String
  | 0, suffix => placeName place suffix
  | tries + 1, suffix =>
    if globals.has (placeName place suffix) then freeName globals place tries (suffix + 1)
    else placeName place suffix

/-- The name under which the word in `place` is shown. -/
def nameFor (names : List (UInt32 × String)) (globals : Globals) (place : Nat) : String :=
  match Sorted.find? (.ofNat place) names with
  | some name =>
    if globals.has name then freeName globals place globals.length 0 else name
  | none => freeName globals place globals.length 0

/-- The names of the words: the last variable in a slot names it. -/
def slotNames (index : ProcedureIndex) : List (UInt32 × String) :=
  match index.entry with
  | some entry => Sorted.ofList entry.slots
  | none => []

def nameWords (names : List (UInt32 × String)) : Globals → Nat → List UInt32 → Globals
  | globals, _, [] => globals
  | globals, place, word :: words =>
    nameWords names (Sorted.insert (nameFor names globals place) word globals) (place + 1) words

/-- Names the words of a globals area. The first word is the status cell and is not shown; each
other word is shown once, under its variable's name or a made-up one. -/
def ofArea (words : List UInt32) (index : ProcedureIndex) : Globals :=
  nameWords (slotNames index) [] 0 words.tail

def toJson (globals : Globals) : Json.Value :=
  .object (globals.map fun (name, word) => (name, Json.ofWord word))

end Globals

end BoardDebug
