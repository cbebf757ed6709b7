import BoardDebug.Globals
import BoardDebug.Json.Decoder

namespace BoardDebug

/-- What an editor asks for while the device is halted. -/
inductive StepCommand where
  | stepOver
  | stepInto
deriving DecidableEq, Repr

namespace StepCommand

def isInto : StepCommand → Bool
  | stepOver => false
  | stepInto => true

structure Draft where
  type : Option String := none
  subtype : Option String := none

/-- The command that a message's type and subtype name; other messages are no commands. -/
def ofNames (type subtype : String) : Option StepCommand :=
  if type = "debugger" then
    if subtype = "stepover" then some .stepOver
    else if subtype = "stepinto" then some .stepInto
    else none
  else none

def record : Json.Record Draft (Option StepCommand) where
  fields :=
    [.required "type" Draft.type (fun v d => { d with type := v }) Json.Decoder.string,
      .defaulted "subtype" Draft.subtype (fun v d => { d with subtype := v }) Json.Decoder.string]
  unknown := .skipped
  blank := {}
  finish d := d.type.map fun type => ofNames type (d.subtype.getD "")

/-- Reads a message. -/
def parse (bytes : Bytes) : Except Json.Fault (Option StepCommand) :=
  record.decoder.run bytes

end StepCommand

/-- What an editor is told when the device halts. -/
structure HaltMessage where
  breakpointId : UInt32
  globals : Globals
  /-- The stack is not reconstructed, so this is empty in every message of a session. -/
  frames : List Json.Value

namespace HaltMessage

def new (breakpointId : UInt32) (globals : Globals) : HaltMessage :=
  { breakpointId, globals, frames := [] }

structure Draft where
  type : Option Unit := none
  subtype : Option Unit := none
  breakpointId : Option UInt32 := none
  globals : Option Globals := none
  frames : Option (List Json.Value) := none

def record : Json.Record Draft HaltMessage where
  fields :=
    [.required "type" Draft.type (fun v d => { d with type := v }) (.choice [("debugger", ())]),
      .required "subtype" Draft.subtype (fun v d => { d with subtype := v })
        (.choice [("breakpoint", ())]),
      .required "breakpointId" Draft.breakpointId (fun v d => { d with breakpointId := v })
        Json.Decoder.word,
      .required "globals" Draft.globals (fun v d => { d with globals := v })
        (.dictionary Json.Decoder.word),
      .required "stackframes" Draft.frames (fun v d => { d with frames := v })
        (.list Json.Decoder.value)]
  unknown := .skipped
  blank := {}
  finish d := do
    let _ ← d.type
    let _ ← d.subtype
    let breakpointId ← d.breakpointId
    let globals ← d.globals
    let frames ← d.frames
    return { breakpointId, globals, frames }

def ofJson (bytes : Bytes) : Except Json.Fault HaltMessage :=
  record.decoder.run bytes

def toJson (m : HaltMessage) : Json.Value :=
  .object
    [("type", .text "debugger"), ("subtype", .text "breakpoint"),
      ("breakpointId", Json.ofWord m.breakpointId), ("globals", m.globals.toJson),
      ("stackframes", .list m.frames)]

/-- The one line that is sent. -/
def line (m : HaltMessage) : String :=
  m.toJson.render

end HaltMessage

end BoardDebug
