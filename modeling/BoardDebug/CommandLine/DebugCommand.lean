import BoardDebug.CommandLine.Arguments
import BoardDebug.Selector
import BoardDebug.Settings

namespace BoardDebug.CommandLine

/-- What is given on the command line for a debug session. -/
structure DebugArguments where
  debugInfo : Option String
  binary : Option String
  format : Option ImageFormat
  baseAddress : Option UInt32
  buildCommand : Option (List String)
  poll : Bool
  device : Option Selector

namespace DebugArguments

def blank : DebugArguments := ⟨none, none, none, none, none, false, none⟩

/-- An option whose one value `read` understands. -/
def valued {α : Type} (name : String) (read : String → Except UsageError α)
    (set : α → DebugArguments → DebugArguments) : Flag DebugArguments where
  name
  arity := .one
  accept values arguments := do
    let a ← read (values.headD "")
    return set a arguments

/-- A path is any text that is not empty. -/
def readPath (text : String) : Except UsageError String :=
  if text.isEmpty then .error .invalidValue else .ok text

def readFormat (text : String) : Except UsageError ImageFormat :=
  match ImageFormat.ofName text with
  | .ok format => .ok format
  | .error _ => .error .valueValidation

def readAddress (text : String) : Except UsageError UInt32 :=
  match Text.word? text.toList with
  | some address => .ok address
  | none => .error .valueValidation

def readSelector (text : String) : Except UsageError Selector :=
  match Selector.ofText text with
  | .ok selector => .ok selector
  | .error _ => .error .valueValidation

def flags : List (Flag DebugArguments) :=
  [valued "debug-info" readPath fun v a => { a with debugInfo := some v },
    valued "binary" readPath fun v a => { a with binary := some v },
    valued "format" readFormat fun v a => { a with format := some v },
    valued "base-address" readAddress fun v a => { a with baseAddress := some v },
    { name := "build-command"
      arity := .rest
      accept := fun values a =>
        .ok { a with buildCommand := some (a.buildCommand.getD [] ++ values) } },
    { name := "poll"
      arity := .none
      accept := fun _ a => .ok { a with poll := true } },
    valued "device" readSelector fun v a => { a with device := some v }]

def parse (arguments : List String) : Except UsageError DebugArguments :=
  CommandLine.parse flags blank arguments

/-- The settings with those replaced that are given here. A device is named as a whole: one without
a serial number takes away the one that was set. -/
def apply (a : DebugArguments) (s : Settings) : Settings :=
  { s with
    artifacts :=
      { buildCommand := a.buildCommand.getD s.artifacts.buildCommand
        debugInfo := a.debugInfo.getD s.artifacts.debugInfo
        binary := a.binary.getD s.artifacts.binary
        format := a.format <|> s.artifacts.format
        baseAddress := a.baseAddress.getD s.artifacts.baseAddress }
    session := if a.poll then { s.session with strategy := .poll } else s.session
    device :=
      match a.device with
      | some selector => selector.apply s.device
      | none => s.device }

end DebugArguments

end BoardDebug.CommandLine
