import BoardDebug.Files

namespace BoardDebug.Build

/-- Where bytes come from or go to. -/
inductive Flow where
  /-- Bytes that were written and not read yet, the latest first, with the times of that. -/
  | bytes (chunks : List (Int × Bytes))
  /-- A file, by the number of its node, from a place in it on, or at its end. -/
  | file (node : Nat) (offset : Nat) (appends : Bool)
  | nowhere

namespace Flow

/-- A flow from which bytes can be read. -/
def of (content : Bytes) : Flow :=
  .bytes [(0, content)]

/-- Bytes without the first ones. -/
def dropBytes : Nat → List (Int × Bytes) → List (Int × Bytes)
  | _, [] => []
  | count, (time, content) :: rest =>
    if content.length ≤ count then dropBytes (count - content.length) rest
    else (time, content.drop count) :: rest

/-- Puts bytes behind all that were written no later. -/
def addBytes (time : Int) (content : Bytes) (chunks : List (Int × Bytes)) :
    List (Int × Bytes) :=
  let later := chunks.takeWhile fun (other, _) => time < other
  later ++ (time, content) :: chunks.drop later.length

end Flow

/-- Files, and the flows that commands have opened, by number. -/
structure Machine where
  files : Files
  flows : List Flow

namespace Machine

def add (m : Machine) (flow : Flow) : Machine × Nat :=
  ({ m with flows := m.flows ++ [flow] }, m.flows.length)

def fileBytes (m : Machine) (node : Nat) : Bytes :=
  (m.files.nodes[node]?).elim [] fun node => Files.bytesOf node.body

/-- What can be read. -/
def available (m : Machine) (n : Nat) : Bytes :=
  match m.flows[n]? with
  | some (.bytes chunks) => chunks.reverse.flatMap (·.2)
  | some (.file node offset _) => (m.fileBytes node).drop offset
  | _ => []

/-- Whether a flow is a file, in which one may go back. -/
def isFile (m : Machine) (n : Nat) : Bool :=
  match m.flows[n]? with
  | some (.file _ _ _) => true
  | _ => false

/-- Whether a flow is a directory, which has nothing to read. -/
def isDirectory (m : Machine) (n : Nat) : Bool :=
  match m.flows[n]? with
  | some (.file node _ _) => (m.files.nodes[node]?).any fun node => node.body == .directory
  | _ => false

/-- Counts the first bytes as read. -/
def drop (m : Machine) (n count : Nat) : Machine :=
  let flow := match m.flows[n]? with
    | some (.bytes chunks) => .bytes (Flow.dropBytes count chunks.reverse).reverse
    | some (.file node offset appends) => .file node (offset + count) appends
    | _ => .nowhere
  { m with flows := m.flows.set n flow }

def write (m : Machine) (n : Nat) (bytes : Bytes) : Machine :=
  match m.flows[n]? with
  | some (.bytes chunks) =>
    { m with flows := m.flows.set n (.bytes (Flow.addBytes m.files.time bytes chunks)) }
  | some (.file node offset appends) =>
    let old := m.fileBytes node
    let start := if appends then old.length else offset
    let before := old.take start ++ List.replicate (start - old.length) 0
    let new := before ++ bytes ++ old.drop (start + bytes.length)
    { m with
      files := m.files.setBytes node new
      flows := m.flows.set n (.file node (start + bytes.length) appends) }
  | _ => m

end Machine

end BoardDebug.Build
