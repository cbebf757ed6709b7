import BoardDebug.Json.Value
import BoardDebug.Sorted

namespace BoardDebug

/-- Settings as one source gives them: values under names, in increasing order of the names. -/
abbrev Layer := List (String × Json.Value)

namespace Layer

mutual

/-- Two values of one key. Tables join; of anything else the later one counts. -/
def mergeValue (earlier : Json.Value) : Json.Value → Json.Value
  | .object later =>
    match earlier with
    | .object earlier => .object (merge earlier later)
    | _ => .object later
  | later => later

/-- The settings of an earlier and a later source. The later one wins, key by key. -/
def merge (earlier : Layer) : Layer → Layer
  | [] => earlier
  | (name, later) :: rest =>
    let value := match Sorted.find? name earlier with
      | some old => mergeValue old later
      | none => later
    merge (Sorted.insert name value earlier) rest

end

/-- The settings of sources, the latest last. -/
def mergeAll (layers : List Layer) : Layer :=
  layers.foldl merge []

/-- The layer in which one value stands at the end of a path of names. -/
def ofPath : List String → Json.Value → Json.Value
  | [], value => value
  | name :: path, value => .object [(name, ofPath path value)]

/-- The name in an object of a file for the value that the object stands for. -/
def standInName : String := "___figment_value_value"

/-- The name in an object of a file for the number of its source. -/
def sourceName : String := "___figment_value_id"

/-- What the members of an object mean: the value they stand for, or an object. -/
def meaning? (members : Layer) : Option Json.Value :=
  let numbered := match Sorted.find? sourceName members with
    | some (.natural _) | none => true
    | some _ => false
  if numbered then
    match Sorted.find? standInName members with
    | some value => some value
    | none => some (.object (members.filter (·.1 != sourceName)))
  else none

mutual

/-- The value that is meant by a value in a file. -/
def valueOf? : Json.Value → Option Json.Value
  | .list items => (itemsOf? items).map .list
  | .object members => (ofMembers? members).bind meaning?
  | value => some value

def itemsOf? : List Json.Value → Option (List Json.Value)
  | [] => some []
  | item :: rest => do return (← valueOf? item) :: (← itemsOf? rest)

/-- The layer that is meant by the members of a file. -/
def ofMembers? : List (String × Json.Value) → Option Layer
  | [] => some []
  | (name, value) :: rest => do return (name, ← valueOf? value) :: (← ofMembers? rest)

end

end Layer

end BoardDebug
