import BoardDebug.Text.Utf8

namespace BoardDebug

/-- Why a file cannot be used. -/
inductive FileFault where
  | missing
  | isDirectory
  | notDirectory
  | denied
  /-- A name has more bytes than a name may have. -/
  | longName
  /-- Links lead to links without end. -/
  | loop
  /-- The file is no program. -/
  | notProgram
  /-- A path has a NUL byte in it. -/
  | nulInPath
  /-- So has a word of a command. -/
  | nulInCommand
  /-- A fault of another kind, in words. -/
  | described (text : String)
deriving DecidableEq, Repr

def FileFault.message : FileFault → String
  | missing => "No such file or directory (os error 2)"
  | isDirectory => "Is a directory (os error 21)"
  | notDirectory => "Not a directory (os error 20)"
  | denied => "Permission denied (os error 13)"
  | longName => "File name too long (os error 36)"
  | loop => "Too many levels of symbolic links (os error 40)"
  | notProgram => "Exec format error (os error 8)"
  | nulInPath => "file name contained an unexpected NUL byte"
  | nulInCommand => "nul byte found in provided data"
  | described text => text

/-- A place in a file tree, as the names on the way from the root. Each character of a name stands
for one byte. -/
abbrev Place := List String

inductive Body where
  | file (bytes : Bytes)
  /-- A program that is known by its name. -/
  | tool (name : String)
  | directory
  /-- What is meant lies at the end of another path. -/
  | link (path : String)
  /-- A file that takes everything, and is empty or gives one byte without end. -/
  | device (fill : Option UInt8)
deriving DecidableEq

structure Node where
  body : Body
  /-- What may be done with it: three bits for its owner, three for a group, three for all. -/
  mode : Nat
  /-- When it changed, in nanoseconds. -/
  time : Int

/-- A tree of files. A node may lie in several places, and one that lies nowhere any more may still
be in use. -/
structure Files where
  /-- The numbers of the nodes in all places below the root. -/
  entries : List (Place × Nat)
  /-- The nodes, the root first. -/
  nodes : List Node
  /-- The working directory, from which paths start. -/
  here : Place
  /-- What may not be done with new nodes. -/
  mask : Nat
  time : Int

namespace Files

/-- The number of the node in a place. -/
def number? (files : Files) (place : Place) : Option Nat :=
  if place = [] then some 0 else (files.entries.find? fun (p, _) => p = place).map (·.2)

/-- What lies in a place. -/
def node? (files : Files) (place : Place) : Option Node :=
  (files.number? place).bind (files.nodes[·]?)

def body? (files : Files) (place : Place) : Option Body :=
  (files.node? place).map (·.body)

/-- Puts a new node into a place. -/
def insert (files : Files) (place : Place) (body : Body) (mode : Nat) : Files :=
  { files with
    entries := (place, files.nodes.length) :: files.entries.filter fun (p, _) => p ≠ place
    nodes := files.nodes ++ [⟨body, mode, files.time⟩]
    time := files.time + 1 }

/-- What may be done with a new node, if nothing else is said. -/
def usualMode (files : Files) : Body → Nat
  | .directory => 0o777 - (0o777 &&& files.mask)
  | .link _ => 0o777
  | .tool _ => 0o755
  | _ => 0o666 - (0o666 &&& files.mask)

def create (files : Files) (place : Place) (body : Body) : Files :=
  files.insert place body (files.usualMode body)

/-- Changes a node. -/
def change (files : Files) (number : Nat) (act : Node → Node) : Files :=
  { files with nodes := files.nodes.modify number act }

/-- Puts bytes into a file. -/
def setBytes (files : Files) (number : Nat) (bytes : Bytes) : Files :=
  let changed := files.change number fun node =>
    match node.body with
    | .device _ => node
    | _ => { node with body := .file bytes, time := files.time }
  { changed with time := files.time + 1 }

/-- Takes a place away, and all that lies in it. -/
def remove (files : Files) (place : Place) : Files :=
  { files with entries := files.entries.filter fun (p, _) => !place.isPrefixOf p }

/-- Puts what lies in one place, and in it, into another. -/
def move (files : Files) (source target : Place) : Files :=
  let kept := files.entries.filter fun (p, _) => !target.isPrefixOf p
  { files with
    entries := kept.map fun (p, n) =>
      if source.isPrefixOf p then (target ++ p.drop source.length, n) else (p, n) }

/-- The names of what lies in a directory, in their order. -/
def names (files : Files) (place : Place) : List String :=
  let found := files.entries.filterMap fun (p, _) =>
    if p.dropLast = place ∧ p ≠ [] then p.getLast? else none
  found.mergeSort

/-- The place that names lead to from a directory. It need not be there, but it has to lie in a
directory. A link at its end is followed if `follows`. -/
def walk (files : Files) (follows : Bool) (links : Nat) (here : Place) (path : List String) :
    Except FileFault Place :=
  match path with
  | [] => .ok here
  | part :: rest =>
    match files.body? here with
    | none => .error .missing
    | some .directory =>
      if part = "" ∨ part = "." then walk files follows links here rest
      else if part = ".." then walk files follows links here.dropLast rest
      else if 255 < part.length then .error .longName
      else
        let place := here ++ [part]
        match files.body? place with
        | none => if rest.isEmpty then .ok place else .error .missing
        | some (.link path) =>
          if rest.isEmpty ∧ !follows then .ok place
          else
            match _h : links with
            | 0 => .error .loop
            | links + 1 =>
              let start := if path.startsWith "/" then [] else here
              walk files follows links start (path.splitOn "/" ++ rest)
        | some _ => walk files follows links place rest
    | some _ => .error .notDirectory
termination_by (links, path.length)

/-- How many links may be followed on the way to a place. -/
def maxLinks : Nat := 40

/-- The place that a path leads to. -/
def lookup (files : Files) (follows : Bool) (path : String) : Except FileFault Place :=
  if path.contains '\x00' then .error .nulInPath
  else if path = "" then .error .missing
  else if 4095 < path.length then .error .longName
  else
    let start := if path.startsWith "/" then [] else files.here
    files.walk follows maxLinks start (path.splitOn "/")

/-- What lies where a path leads to. -/
def at? (files : Files) (follows : Bool) (path : String) : Except FileFault (Place × Node) :=
  match files.lookup follows path with
  | .error fault => .error fault
  | .ok place =>
    match files.node? place with
    | some node => .ok (place, node)
    | none => .error .missing

/-- What lies at the end of a path and of the links there. -/
def find (files : Files) (path : String) : Except FileFault (Place × Node) :=
  files.at? true path

/-- What lies at the end of a path, be it a link. -/
def findLink (files : Files) (path : String) : Except FileFault (Place × Node) :=
  files.at? false path

/-- How many bytes are looked at of those that go on without end. -/
def endless : Nat := 1048576

/-- The bytes that can be read from a node. -/
def bytesOf : Body → Bytes
  | .file bytes => bytes
  | .device (some fill) => List.replicate endless fill
  | _ => []

/-- The bytes of a file whose path is spelled byte by byte. -/
def contents (files : Files) (path : String) : Except FileFault Bytes :=
  match files.find path with
  | .error fault => .error fault
  | .ok (_, node) =>
    if node.body = .directory then .error .isDirectory else .ok (bytesOf node.body)

/-- The bytes of a file. -/
def read (files : Files) (path : String) : Except FileFault Bytes :=
  files.contents (Octets.spell path)

def isDirectory (files : Files) (path : String) : Bool :=
  match files.find path with
  | .ok (_, ⟨.directory, _, _⟩) => true
  | _ => false

/-- Makes the directories on the way to a place that are not there. -/
def createParents (files : Files) (before : Place) : Place → Files
  | [] => files
  | [_] => files
  | name :: rest =>
    let place := before ++ [name]
    let files := if (files.number? place).isSome then files else files.create place .directory
    files.createParents place rest

/-- The directory in which all work begins. -/
def home : Place :=
  ["tmp", ".work"]

/-- A tree with the usual directories. -/
def empty : Files :=
  let bare : Files :=
    { entries := [], nodes := [⟨.directory, 0o755, 0⟩], here := home, mask := 0o022,
      time := 1767225600000000000 }
  let directories : List Place :=
    ["dev", "etc", "home", "lib", "opt", "proc", "root", "run", "sys", "tmp", "usr", "var"].map
      fun name => [name]
  let tree := (directories ++ [["usr", "bin"], home]).foldl
    (fun files place => files.create place .directory) bare
  let devices := [("null", none), ("zero", some 0), ("random", some 0), ("urandom", some 0)]
  devices.foldl (fun files (name, fill) => files.create ["dev", name] (.device fill))
    (tree.create ["bin"] (.link "usr/bin"))

/-- Puts something at a path that leads downwards from the working directory. -/
def put (files : Files) (path : String) (body : Body) : Files :=
  let names := ((Octets.spell path).splitOn "/").filter fun name => name ≠ "" ∧ name ≠ "."
  let place := files.here ++ names
  (files.createParents [] place).create place body

end Files

end BoardDebug
