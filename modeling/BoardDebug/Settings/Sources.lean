import BoardDebug.Json.Value
import BoardDebug.Settings
import BoardDebug.Settings.Environment
import BoardDebug.Settings.Toml
import BoardDebug.Settings.Yaml.Node
import BoardDebug.Settings.Yaml.Scalar
import BoardDebug.Sorted

namespace BoardDebug.Yaml

/-- Characters that a document may hold. -/
def isPrintable (c : Char) : Bool :=
  c == '\t' || c == '\n' || c == '\r' || c == '\x85' || (' ' ≤ c && c ≤ '~') ||
    ('\xa0' ≤ c && c ≠ '\ufffe' && c ≠ '\uffff')

/-- Gives meaning to values, with a number of repetitions that are left. -/
abbrev Meaning := StateT Nat Option

/-- A value, or the one that it repeats. -/
def follow (root : Node) : Node → Meaning Node
  | .again mark => do
    let left ← get
    if left = 0 then failure
    else
      set (left - 1)
      match (root.nodes.filter fun node => node.mark? == some mark).getLast? with
      | some node => return node
      | none => failure
  | node => return node

/-- The name in a pair; its tag does not count. -/
def keyName (root node : Node) : Meaning String := do
  match ← follow root node with
  | .scalar _ text _ => return text
  | _ => failure

/-- What a value means in which lists and tables are nested to a depth. -/
def value (root : Node) : Nat → Node → Meaning Json.Value
  | 0, node => do
    match ← follow root node with
    | .scalar properties text isPlain => Scalar.meaning? properties.tag text isPlain
    | _ => failure
  | depth + 1, node => do
    match ← follow root node with
    | .scalar properties text isPlain => Scalar.meaning? properties.tag text isPlain
    | .list properties items =>
      if Scalar.isLocal properties.tag then failure
      else return .list (← items.mapM (value root depth))
    | .table properties pairs =>
      if Scalar.isLocal properties.tag then failure else return .object (← members depth pairs)
    | .again _ => failure
where
  members (depth : Nat) (pairs : List (Node × Node)) : Meaning (List (String × Json.Value)) := do
    let named ← pairs.mapM fun (key, node) => return (← keyName root key, ← value root depth node)
    return Sorted.ofList named

/-- How deep lists and tables may be nested. -/
def maxDepth : Nat := 128

/-- How many steps it takes to go through a value: two for a list or a table, one for anything
else. -/
def size (root : Node) : Nat :=
  root.nodes.foldl
    (fun n node =>
      match node with
      | .list .. => n + 2
      | .table .. => n + 2
      | _ => n + 1)
    0

/-- The table that a document describes. Nothing describes an empty one. -/
def parse (text : List Char) : Option (List (String × Json.Value)) := do
  if !text.all isPrintable then failure
  let tokens ← tokens text
  match ← (Parsing.document (maxDepth + 2)).run' ⟨tokens, [], []⟩ with
  | none => return []
  | some root =>
    match root with
    | .scalar _ "" true => return []
    | .table _ pairs => (value.members root (maxDepth - 1) pairs).run' (100 * size root)
    | _ => failure

end BoardDebug.Yaml

namespace BoardDebug

/-- How a file gives its settings. -/
inductive SettingsFormat where
  | toml
  | json
  | yaml

namespace SettingsFormat

/-- The format of a file, by the ending of its name. -/
def ofPath? (path : String) : Option SettingsFormat :=
  match Path.extension? path with
  | some "toml" => some toml
  | some "json" => some json
  | some "yaml" => some yaml
  | some "yml" => some yaml
  | _ => none

/-- The members of the table that a text is. -/
def members? (format : SettingsFormat) (bytes : Bytes) : Option Layer :=
  match Utf8.decode? bytes with
  | none => none
  | some text =>
    match format with
    | toml => Toml.parse text
    | yaml => Yaml.parse text
    | json =>
      match Json.Decoder.value.run bytes with
      | .ok (.object layer) => some layer
      | _ => none

/-- Reads settings. -/
def parse (format : SettingsFormat) (bytes : Bytes) : Option Layer :=
  (format.members? bytes).bind Layer.ofMembers?

end SettingsFormat

/-- Why there are no settings. -/
inductive SettingsError where
  /-- The ending of a file that was asked for names no format. -/
  | unknownFormat
  /-- A source cannot be read, or what the sources say has no meaning. -/
  | unreadable

def SettingsError.message : SettingsError → String
  | unknownFormat =>
    "File format not recognized from extension (supported: .toml, .json, .yaml / .yml)"
  | unreadable => "Failed to parse supplied configuration:"

namespace Settings

/-- The files that are looked for, the later ones winning. -/
def fileNames : List String :=
  [".hf2dbg", ".hf2dbg.local"].flatMap fun name =>
    [".toml", ".json", ".yaml", ".yml"].map fun ending => name ++ ending

/-- The settings in a file; a file that does not exist gives none. -/
def readFile (files : Files) (path : String) : Option Layer :=
  match SettingsFormat.ofPath? path, files.read path with
  | some format, .ok bytes => format.parse bytes
  | _, _ => some []

/-- The settings from the usual files, a file that was asked for, and variables. -/
def load (files : Files) (asked : Option String) (environment : List (String × String)) :
    Except SettingsError Settings :=
  match asked with
  | some path => if (SettingsFormat.ofPath? path).isNone then .error .unknownFormat else join
  | none => join
where
  join : Except SettingsError Settings :=
    match (fileNames ++ asked.toList).mapM (readFile files) with
    | none => .error .unreadable
    | some layers =>
      match ofLayer? (Layer.mergeAll (usual :: layers ++ [Environment.layers environment])) with
      | some settings => .ok settings
      | none => .error .unreadable

end Settings

end BoardDebug
