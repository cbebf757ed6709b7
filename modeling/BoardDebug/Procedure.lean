import BoardDebug.Json.Decoder

namespace BoardDebug

/-- A named variable of a procedure. -/
structure LocalVariable where
  name : String
  /-- The number of the variable's word; without one the place in the list counts. -/
  slot : Option UInt32
deriving DecidableEq, Repr

/-- A call that a procedure makes. -/
structure CallSite where
  address : UInt32
  /-- The index of the called procedure. -/
  callee : UInt32
  /-- The stack depth that the call adds. -/
  stack : UInt32
deriving DecidableEq, Repr

structure Procedure where
  index : UInt32
  name : String
  locals : List LocalVariable
  calls : List CallSite
  /-- Where the landing pad for stepping into the procedure lies, if there is one. -/
  landingPad : Option UInt32
  /-- The first instruction of the body. -/
  bodyStart : Option UInt32
deriving DecidableEq, Repr

namespace LocalVariable

structure Draft where
  name : Option String := none
  slot : Option (Option UInt32) := none

def record : Json.Record Draft LocalVariable where
  fields :=
    [.required "name" Draft.name (fun v d => { d with name := v }) Json.Decoder.string,
      .defaulted "slot" Draft.slot (fun v d => { d with slot := some v })
        (.optional Json.Decoder.word)]
  unknown := .skipped
  blank := {}
  finish d := do
    let name ← d.name
    return { name, slot := d.slot.getD none }

def toJson (v : LocalVariable) : Json.Value :=
  .object [("name", .text v.name), ("slot", Json.ofOption Json.ofWord v.slot)]

end LocalVariable

namespace CallSite

structure Draft where
  address : Option UInt32 := none
  callee : Option UInt32 := none
  stack : Option UInt32 := none

def record : Json.Record Draft CallSite where
  fields :=
    [.required "addr" Draft.address (fun v d => { d with address := v }) Json.Decoder.word,
      .required "procIndex" Draft.callee (fun v d => { d with callee := v }) Json.Decoder.word,
      .required "stack" Draft.stack (fun v d => { d with stack := v }) Json.Decoder.word]
  unknown := .skipped
  blank := {}
  finish d := do
    let address ← d.address
    let callee ← d.callee
    let stack ← d.stack
    return { address, callee, stack }

def toJson (c : CallSite) : Json.Value :=
  .object
    [("addr", Json.ofWord c.address), ("procIndex", Json.ofWord c.callee),
      ("stack", Json.ofWord c.stack)]

end CallSite

namespace Procedure

/-- The variables with the numbers of their words. -/
def slots (p : Procedure) : List (UInt32 × String) :=
  p.locals.zipIdx.map fun (v, place) => (v.slot.getD (.ofNat place), v.name)

structure Draft where
  index : Option UInt32 := none
  name : Option String := none
  locals : Option (List LocalVariable) := none
  calls : Option (List CallSite) := none
  landingPad : Option (Option UInt32) := none
  bodyStart : Option (Option UInt32) := none

def record : Json.Record Draft Procedure where
  fields :=
    [.required "idx" Draft.index (fun v d => { d with index := v }) Json.Decoder.word,
      .defaulted "name" Draft.name (fun v d => { d with name := v }) Json.Decoder.string,
      .defaulted "locals" Draft.locals (fun v d => { d with locals := v })
        (.list LocalVariable.record.decoder),
      .defaulted "calls" Draft.calls (fun v d => { d with calls := v })
        (.list CallSite.record.decoder),
      .defaulted "bkptLoc" Draft.landingPad (fun v d => { d with landingPad := some v })
        (.optional Json.Decoder.word),
      .defaulted "codeStartLoc" Draft.bodyStart (fun v d => { d with bodyStart := some v })
        (.optional Json.Decoder.word)]
  unknown := .skipped
  blank := {}
  finish d := d.index.map fun index =>
    { index
      name := d.name.getD ""
      locals := d.locals.getD []
      calls := d.calls.getD []
      landingPad := d.landingPad.getD none
      bodyStart := d.bodyStart.getD none }

def toJson (p : Procedure) : Json.Value :=
  .object
    [("idx", Json.ofWord p.index), ("name", .text p.name),
      ("locals", .list (p.locals.map LocalVariable.toJson)),
      ("calls", .list (p.calls.map CallSite.toJson)),
      ("bkptLoc", Json.ofOption Json.ofWord p.landingPad),
      ("codeStartLoc", Json.ofOption Json.ofWord p.bodyStart)]

end Procedure

/-- A call whose two ends are known. -/
structure CallEdge where
  caller : Procedure
  callee : Procedure
  stack : UInt32

/-- The procedures of a program by index, and its calls by address. -/
structure ProcedureIndex where
  /-- In increasing order of their indices. -/
  procedures : List (UInt32 × Procedure)
  /-- In increasing order of their addresses. -/
  calls : List (UInt32 × CallEdge)
  /-- The first procedure of the program; its variables name the globals. -/
  entry : Option Procedure

namespace ProcedureIndex

/-- The calls of `procedures`, each with its address. A call of a procedure that does not exist is
left out. -/
def resolvedCalls (known : List (UInt32 × Procedure)) (procedures : List Procedure) :
    List (UInt32 × CallEdge) :=
  procedures.flatMap fun caller =>
    caller.calls.filterMap fun site =>
      (Sorted.find? site.callee known).map fun callee =>
        (site.address, { caller, callee, stack := site.stack })

/-- Of several procedures with one index, and of several calls at one address, the last counts. -/
def ofList (procedures : List Procedure) : ProcedureIndex :=
  let known := Sorted.ofList (procedures.map fun p => (p.index, p))
  { procedures := known
    calls := Sorted.ofList (resolvedCalls known procedures)
    entry := procedures.head? }

def procedure? (index : ProcedureIndex) (i : UInt32) : Option Procedure :=
  Sorted.find? i index.procedures

def call? (index : ProcedureIndex) (address : UInt32) : Option CallEdge :=
  Sorted.find? address index.calls

/-- The number of different indices. -/
def size (index : ProcedureIndex) : Nat :=
  index.procedures.length

/-- The procedure whose landing pad lies at `pc`, the one with the lowest index of several. -/
def landingAt? (index : ProcedureIndex) (pc : UInt32) : Option Procedure :=
  (index.procedures.map (·.2)).find? fun p => p.landingPad == some pc && p.bodyStart.isSome

end ProcedureIndex

end BoardDebug
