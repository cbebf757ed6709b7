import BoardDebug.Json.Decoder

namespace BoardDebug

/-- A place where a program can stop. -/
structure Breakpoint where
  id : UInt32
  /-- The code address; zero if the compiler could not place the breakpoint. -/
  address : UInt32
  /-- The breakpoints that one statement may lead to. -/
  successors : List UInt32
deriving DecidableEq, Repr, Inhabited

namespace Breakpoint

/-- The breakpoint that explains a halt at `pc`. A device may stop a little past the armed address,
so of the breakpoints at or below `pc` the nearest one counts, the earliest of several; below all of
them the first breakpoint stands in. -/
def resolve (pc : UInt32) (breakpoints : List Breakpoint) : Option Breakpoint :=
  match nearest breakpoints with
  | some found => some found
  | none => breakpoints.head?
where
  nearest : List Breakpoint → Option Breakpoint
    | [] => none
    | b :: rest =>
      match nearest rest with
      | some later => if b.address ≤ pc ∧ later.address ≤ b.address then some b else some later
      | none => if b.address ≤ pc then some b else none

structure Draft where
  id : Option UInt32 := none
  address : Option UInt32 := none
  successors : Option (List UInt32) := none

def record : Json.Record Draft Breakpoint where
  fields :=
    [.required "id" Draft.id (fun v d => { d with id := v }) Json.Decoder.word,
      .required "binAddr" Draft.address (fun v d => { d with address := v }) Json.Decoder.word,
      .defaulted "successors" Draft.successors (fun v d => { d with successors := v })
        (.list Json.Decoder.word)]
  unknown := .skipped
  blank := {}
  finish d := do
    let id ← d.id
    let address ← d.address
    return { id, address, successors := d.successors.getD [] }

def toJson (b : Breakpoint) : Json.Value :=
  .object
    [("id", Json.ofWord b.id), ("binAddr", Json.ofWord b.address),
      ("successors", .list (b.successors.map Json.ofWord))]

end Breakpoint

/-- The breakpoints of a program. The first one is reserved: it explains halts that no other
breakpoint explains. -/
structure BreakpointTable where
  first : Breakpoint
  others : List Breakpoint

namespace BreakpointTable

/-- The result is `none` for a program without breakpoints. -/
def ofList? : List Breakpoint → Option BreakpointTable
  | [] => none
  | first :: others => some ⟨first, others⟩

def toList (table : BreakpointTable) : List Breakpoint :=
  table.first :: table.others

def size (table : BreakpointTable) : Nat :=
  table.toList.length

/-- The breakpoint that explains a halt at `pc`. -/
def resolve (table : BreakpointTable) (pc : UInt32) : Breakpoint :=
  (Breakpoint.resolve pc table.toList).getD table.first

/-- Of two breakpoints the one with the lower address, the first if they share it. -/
def lower (a b : Breakpoint) : Breakpoint :=
  if b.address < a.address then b else a

/-- The breakpoint to stop at after a start: the lowest one that is placed, the reserved one
aside. -/
def entry? (table : BreakpointTable) : Option Breakpoint :=
  match table.others.filter (·.address ≠ 0) with
  | [] => none
  | b :: rest => some (rest.foldl lower b)

/-- The first breakpoint with an id. -/
def get? (table : BreakpointTable) (id : UInt32) : Option Breakpoint :=
  table.toList.find? (·.id == id)

/-- The addresses that a step from `b` can lead to. Ids that the table does not have are passed
over. -/
def successorAddresses (table : BreakpointTable) (b : Breakpoint) : List UInt32 :=
  b.successors.filterMap fun id => (table.get? id).map (·.address)

end BreakpointTable

end BoardDebug
