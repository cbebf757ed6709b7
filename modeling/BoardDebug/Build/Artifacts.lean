import BoardDebug.Build.Shell.Run

namespace BoardDebug.Build

/-- A tree in which the usual programs lie. -/
def withPrograms (files : Files) : Files :=
  if (files.number? ["usr", "bin", "sh"]).isSome then files
  else
    Shell.Script.programNames.foldl
      (fun files name => files.create ["usr", "bin", name] (.tool name)) files

/-- What is handed on to all programs. -/
def usualEnvironment : List (String × String) :=
  [("HOME", "/root"), ("PATH", Shell.Script.usualPath)]

/-- A program that starts other programs: it has nothing but the flows that they read and write. -/
def starter (files : Files) (input : Bytes) : Shell.State :=
  { machine := ⟨withPrograms files, [.of input, .bytes [], .bytes []]⟩
    numbers := [(0, 0), (1, 1), (2, 2)]
    number := 4241
    name := ""
    arguments := []
    here := Shell.Script.pathOf files.here
    bindings := usualEnvironment.map fun (name, text) => (name, .text text)
    exported := usualEnvironment.map (·.1) }

/-- Runs a program with arguments, if it can be found. -/
def launch (files : Files) (input : Bytes) (program : String) (arguments : List String) :
    Except FileFault Finished :=
  let runText (source : Shell.Source) : Shell.Script Unit :=
    Shell.Script.lines (Shell.Script.perform Shell.maxSteps false) (source.rest.length + 1) source
  let words := arguments.length + 2
  let (result, s) :=
    (Shell.Script.launch runText words none (Octets.spell program)
      (arguments.map Octets.spell)).run (starter files input)
  let finished (status : ExitStatus) : Finished :=
    { Finished.start s.machine.files (s.machine.available 0) false with
      writes := [(false, s.machine.available 1), (true, s.machine.available 2)]
      status }
  if (program :: arguments).any (·.contains '\x00') then .error .nulInCommand
  else if program = "" then .error .missing
  else
    match result with
    | .ok (.ok status) => .ok (finished status)
    | .ok (.error fault) => .error fault
    | .error (.killed signal) => .ok (finished signal.status)
    | .error _ => .ok (finished (.exited s.status))

end BoardDebug.Build

namespace BoardDebug

/-- Where a program comes from. -/
structure Artifacts where
  /-- A program and its arguments, run before the files are read. -/
  buildCommand : List String
  debugInfo : String
  binary : String
  /-- Without a format the ending of the file decides. -/
  format : Option ImageFormat
  /-- Where a raw image goes. -/
  baseAddress : UInt32
deriving DecidableEq, Repr

/-- What is asked of a compiler. -/
structure CompileOptions where
  /-- Code for the device and not for the simulator. -/
  native : Bool
  debug : Bool

def CompileOptions.forSession : CompileOptions := ⟨true, true⟩

namespace Artifacts

def standard : Artifacts := ⟨[], "", "", none, 0⟩

structure Draft where
  buildCommand : Option (List String) := none
  debugInfo : Option String := none
  binary : Option String := none
  format : Option (Option ImageFormat) := none
  baseAddress : Option UInt32 := none

def record : Json.Record Draft Artifacts where
  fields :=
    [.defaulted "build_command" Draft.buildCommand (fun v d => { d with buildCommand := v })
        (.list Json.Decoder.string),
      .defaulted "debug_info" Draft.debugInfo (fun v d => { d with debugInfo := v })
        Json.Decoder.string,
      .defaulted "binary" Draft.binary (fun v d => { d with binary := v }) Json.Decoder.string,
      .defaulted "format" Draft.format (fun v d => { d with format := some v })
        (.optional (.choice ImageFormat.keys)),
      .defaulted "base_address" Draft.baseAddress (fun v d => { d with baseAddress := v })
        Json.Decoder.word]
  unknown := .skipped
  blank := {}
  finish d := some
    { buildCommand := d.buildCommand.getD standard.buildCommand
      debugInfo := d.debugInfo.getD standard.debugInfo
      binary := d.binary.getD standard.binary
      format := d.format.getD standard.format
      baseAddress := d.baseAddress.getD standard.baseAddress }

def ofJson (bytes : Bytes) : Except Json.Fault Artifacts :=
  record.decoder.run bytes

def toJson (a : Artifacts) : Json.Value :=
  .object
    [("build_command", .list (a.buildCommand.map .text)), ("debug_info", .text a.debugInfo),
      ("binary", .text a.binary), ("format", Json.ofOption (fun f => .text f.key) a.format),
      ("base_address", Json.ofWord a.baseAddress)]

/-- What building leaves: the files, and what is left of the bytes that could be read. -/
structure Built where
  files : Files
  input : Bytes

/-- Runs the build command, if there is one. -/
def build (a : Artifacts) (before : Built) : Except CompileError Unit × Built :=
  match a.buildCommand with
  | [] => (.ok (), before)
  | program :: arguments =>
    let command := " ".intercalate a.buildCommand
    match Build.launch before.files before.input program arguments with
    | .error fault => (.error (.notRun command fault), before)
    | .ok finished =>
      let after : Built := ⟨finished.files, finished.input⟩
      if finished.status = .exited 0 then (.ok (), after)
      else
        let errors := String.ofList (Utf8.decodeLossy finished.errors)
        (.error (.failed command finished.status errors), after)

/-- Reads the debug information and the image. -/
def load (a : Artifacts) (files : Files) : Except CompileError Program :=
  match files.read a.debugInfo with
  | .error fault => .error (.file a.debugInfo fault)
  | .ok bytes =>
    match Metadata.ofJson bytes with
    | .error fault => .error (.metadata a.debugInfo fault)
    | .ok metadata =>
      match Image.load files a.binary a.format a.baseAddress with
      | .error error => .error (.image error)
      | .ok image => .ok (.new metadata image)

/-- Builds and loads a program. -/
def compile (a : Artifacts) (options : CompileOptions) (before : Built) :
    Except CompileError Program × Built :=
  if !options.native then (.error (.unsupported "simulator code"), before)
  else
    match a.build before with
    | (.error error, after) => (.error error, after)
    | (.ok (), after) => (a.load after.files, after)

end Artifacts

/-- Something that makes programs. -/
inductive Compiler where
  /-- The program has been made before. -/
  | precompiled (program : Program)
  | artifacts (artifacts : Artifacts)
  | refusing (what : String)

/-- Makes a program; nothing can be read meanwhile. -/
def Compiler.compile (options : CompileOptions) (files : Files) :
    Compiler → Except CompileError Program × Files
  | precompiled program => (.ok program, files)
  | artifacts a =>
    let (result, after) := a.compile options ⟨files, []⟩
    (result, after.files)
  | refusing what => (.error (.unsupported what), files)

end BoardDebug
