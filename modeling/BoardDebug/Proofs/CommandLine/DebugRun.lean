import BoardDebug.CommandLine.DebugRun
import BoardDebug.Proofs.Text.Utf8
import BoardDebug.Usb.Scripted
import Mathlib.Data.String.Basic

namespace BoardDebug

namespace Text

theorem splitOnAux_slash (s : String) (start i : String.Pos.Raw) (parts : List String) :
    s.splitOnAux "/" start i 0 parts = s.splitAux (· == '/') start i parts := by
  induction hrest : s.rawEndPos.byteIdx - i.byteIdx using Nat.strongRecOn
    generalizing start i parts with
  | _ rest ih =>
    rw [String.splitOnAux, String.splitAux]
    by_cases hend : i.atEnd s
    · simp [hend]
    have hnext : i.byteIdx < (i.next s).byteIdx := String.Pos.Raw.lt_next s i
    have hbefore : i.byteIdx < s.rawEndPos.byteIdx := by
      simpa [String.Pos.Raw.atEnd] using hend
    have ih (start : String.Pos.Raw) (parts : List String) :=
      ih _ (by omega) start (i.next s) parts rfl
    have hslash : String.Pos.Raw.get "/" 0 = '/' := by decide +kernel
    have hone : String.Pos.Raw.next "/" 0 = ⟨1⟩ := by decide +kernel
    have hover : String.Pos.Raw.atEnd "/" ⟨1⟩ = true := by decide +kernel
    by_cases hget : i.get s = '/'
    · have hback : (i.next s).unoffsetBy ⟨1⟩ = i := by
        have hsize : '/'.utf8Size = 1 := rfl
        simp [String.Pos.Raw.next, hget, String.Pos.Raw.ext_iff, hsize]
      simp [hend, hslash, hget, hone, hover, hback, ih]
    · simp [hend, hslash, hget, ih]

/-- The parts of a path, as characters. -/
theorem splitOn_slash (s : String) :
    s.splitOn "/" = (s.toList.splitOnP (· == '/')).map String.ofList := by
  rw [String.splitOn, if_neg (by decide), splitOnAux_slash]
  exact String.splitToList_of_valid s _

end Text

namespace Build

open Shell

/-- Runs the lines of a text, as a shell does that is started first. -/
def runText (source : Source) : Script Unit :=
  Script.lines (Script.perform maxSteps false) (source.rest.length + 1) source

theorem script_bind {α γ : Type} {act : Script α} {next : α → Script γ} {s after : State} {a : α}
    (h : act s = (.ok a, after)) : (act >>= next) s = next a after := by
  change (ExceptT.bindCont next (act s).1) (act s).2 = _
  rw [h]
  rfl

/-- A shell that a path leads to is started. -/
theorem launch_shell {files : Files} {input : Bytes} {program name : String}
    {arguments : List String} {place : Place} {node : Node} {dialect : Dialect}
    {status : ExitStatus} {after : State}
    (hspell : Octets.spell program = program) (hwords : arguments.map Octets.spell = arguments)
    (hnul : (program :: arguments).any (·.contains '\x00') = false)
    (hslash : program.contains '/' = true)
    (hfind : (withPrograms files).find program = .ok (place, node))
    (hbody : node.body = .tool name) (hshell : look name Script.shells = some dialect)
    (hstart : Script.startShell runText dialect program arguments (starter files input) =
      (.ok status, after)) :
    ∃ done, launch files input program arguments = .ok done ∧ done.status = status := by
  have hfound : Script.executable (starter files input) program = .ok ⟨program, node⟩ := by
    simp [Script.executable, hslash, Script.executableAt, starter, hfind, hbody]
  have hlaunch : ExceptT.run (Script.launch runText (arguments.length + 2) none program arguments)
      (starter files input) = (.ok (.ok status), after) := by
    have hget : (get : Script State) (starter files input) =
        (.ok (starter files input), starter files input) := rfl
    rw [ExceptT.run, Script.launch, script_bind hget, hfound]
    simp only [hbody, Script.runNamed, hshell]
    rw [script_bind hstart]
    rfl
  have hne : program ≠ "" := by
    rintro rfl
    simp at hslash
  delta runText at hlaunch
  simp only [launch, hspell, hwords, hlaunch, hnul, if_neg hne]
  exact ⟨_, rfl, rfl⟩

/-- The usual shell is where it is looked for. -/
theorem exists_find_sh :
    ∃ node, (withPrograms .empty).find "/usr/bin/sh" = .ok (["usr", "bin", "sh"], node) ∧
      node.body = .tool "sh" := by
  have hparts : "/usr/bin/sh".splitOn "/" = ["", "usr", "bin", "sh"] := by
    rw [Text.splitOn_slash]
    decide +kernel
  have hnul : "/usr/bin/sh".contains '\x00' = false := by simp
  have hroot : "/usr/bin/sh".startsWith "/" = true := by decide +kernel
  have hlength : "/usr/bin/sh".length = 11 ∧ "usr".length = 3 ∧ "bin".length = 3 ∧
    "sh".length = 2 := by decide +kernel
  obtain ⟨h, husr, hbin, hsh⟩ : (withPrograms .empty).body? [] = some .directory ∧
      (withPrograms .empty).body? ["usr"] = some .directory ∧
      (withPrograms .empty).body? ["usr", "bin"] = some .directory ∧
      (withPrograms .empty).body? ["usr", "bin", "sh"] = some (.tool "sh") := by
    decide +kernel
  obtain ⟨node, hnode, hbody⟩ := Option.map_eq_some_iff.1 hsh
  refine ⟨node, ?_, hbody⟩
  simp [Files.find, Files.at?, Files.lookup, hnul, hroot, hparts, hlength, Files.walk, h, husr,
    hbin, hsh, hnode]

/-- How a shell ends that only reads a line. -/
theorem launch_read (input : Bytes) (code : Nat)
    (h : (Script.startShell runText .sh "/usr/bin/sh" ["-c", "read x"]
      (starter .empty input)).1.toOption = some (.exited code)) :
    ∃ done, launch .empty input "/usr/bin/sh" ["-c", "read x"] = .ok done ∧
      done.status = .exited code := by
  obtain ⟨node, hfind, hbody⟩ := exists_find_sh
  cases hstart : Script.startShell runText .sh "/usr/bin/sh" ["-c", "read x"]
      (starter .empty input) with
  | mk result after =>
    rw [hstart] at h
    cases result with
    | error => cases h
    | ok status =>
      cases h
      exact launch_shell (by decide +kernel) (by decide +kernel) (by simp) (by simp) hfind hbody
        (by decide +kernel) hstart

end Build

namespace Artifacts

/-- Building takes nothing of what there is to be read, and does not depend on it. -/
def SparesInput (a : Artifacts) (files : Files) : Prop :=
  ∃ result after, ∀ input, a.compile .forSession ⟨files, input⟩ = (result, ⟨after, input⟩)

theorem sparesInput_of_nil {a : Artifacts} (h : a.buildCommand = []) (files : Files) :
    a.SparesInput files :=
  ⟨a.load files, files, fun input => by simp [compile, CompileOptions.forSession, build, h]⟩

end Artifacts

namespace CommandLine

namespace DebugRun

/-- Some lines of text as they are put in, each with a line feed at its end. -/
def ofLines (lines : List (List Char)) : Bytes :=
  lines.flatMap fun line => Utf8.encode line ++ [0x0a]

theorem inputLines_append {line : Bytes} (h : 0x0a ∉ line) (rest : Bytes) :
    inputLines (line ++ 0x0a :: rest) = line :: inputLines rest := by
  induction line with
  | nil => simp [inputLines]
  | cons byte line ih =>
    rw [List.mem_cons, not_or] at h
    obtain ⟨hbyte, hline⟩ := h
    rw [List.cons_append, inputLines, if_neg (Ne.symm hbyte), ih hline]

theorem notMem_encode {text : List Char} (h : '\n' ∉ text) : 0x0a ∉ Utf8.encode text := by
  intro hmem
  obtain ⟨c, hc, hbyte⟩ := List.mem_flatMap.1 hmem
  obtain heq | ⟨hlarge, -⟩ := Utf8.mem_encodeChar hbyte
  · have : c = '\n' := Char.toNat_inj.1 heq.symm
    exact h (this ▸ hc)
  · exact absurd hlarge (by decide)

theorem inputLines_ofLines {lines : List (List Char)} (h : ∀ line ∈ lines, '\n' ∉ line) :
    inputLines (ofLines lines) = lines.map Utf8.encode := by
  induction lines with
  | nil => rfl
  | cons line lines ih =>
    obtain ⟨hline, hlines⟩ := List.forall_mem_cons.1 h
    rw [ofLines, List.flatMap_cons, List.append_assoc, List.singleton_append,
      inputLines_append (notMem_encode hline)]
    exact congrArg _ (ih hlines)

variable {δ : Type} [Link δ]

/-- Carries commands out, up to the first that fails. -/
def obey (run : DebugRun δ) : List StepCommand → Ending × DebugRun δ
  | [] => (.goesOn, run)
  | command :: rest =>
    match run.carryOut command with
    | (.goesOn, run) => run.obey rest
    | ended => ended

/-- The commands on some lines. -/
def commands (lines : List (List Char)) : List StepCommand :=
  lines.filterMap command?

/-- A run over lines is the run over the commands on them. -/
theorem carryOutAll_encode (run : DebugRun δ) (lines : List (List Char)) :
    run.carryOutAll (lines.map Utf8.encode) = run.obey (commands lines) := by
  induction lines generalizing run with
  | nil => rfl
  | cons line lines ih =>
    simp only [commands] at ih
    simp only [List.map_cons, carryOutAll, Utf8.decode?_encode, commands, List.filterMap_cons]
    cases command? line with
    | none => exact ih run
    | some command =>
      simp only [obey]
      obtain ⟨_ | _ | chain, stepped⟩ := run.carryOut command
      · exact ih stepped
      · rfl
      · rfl

theorem commands_filter (lines : List (List Char)) :
    commands (lines.filter fun line => (command? line).isSome) = commands lines := by
  induction lines with
  | nil => rfl
  | cons line lines ih =>
    simp only [commands] at ih
    cases hline : command? line <;> simp [commands, hline, ih]

/-- Commands that are carried out one after the other, each to its halt, with what the halts say. -/
inductive Obeys : DebugRun δ → List StepCommand → List HaltMessage → DebugRun δ → Prop
  | done (run : DebugRun δ) : Obeys run [] [] run
  | halt {run stepped halted last : DebugRun δ} {command : StepCommand} {message : HaltMessage}
      {commands : List StepCommand} {messages : List HaltMessage} :
      run.call (Controller.handle command) = (some (.ok ()), stepped) →
      stepped.call Controller.waitForHalt = (some (.ok message), halted) →
      Obeys (halted.report message) commands messages last →
      Obeys run (command :: commands) (message :: messages) last

variable {run last : DebugRun δ} {done : List StepCommand} {messages : List HaltMessage}

theorem output_call {α : Type} (run : DebugRun δ) (routine : Routine Controller α) :
    (run.call routine).2.output = run.output := rfl

theorem output_of_call {α : Type} {routine : Routine Controller α}
    {result : Option (Except SessionError α)} (h : run.call routine = (result, last)) :
    last.output = run.output := by
  rw [← output_call run routine, h]

theorem Obeys.length (h : Obeys run done messages last) : messages.length = done.length := by
  induction h with
  | done => rfl
  | halt _ _ _ ih => simp [ih]

/-- Each halt is reported in one line. -/
theorem Obeys.output (h : Obeys run done messages last) :
    last.output = run.output ++ messages.map (·.line) := by
  induction h with
  | done => simp
  | halt hstep hwait _ ih =>
    rw [ih, report, output_of_call hwait, output_of_call hstep]
    simp

/-- A command either is carried out to its halt, or ends the run without a line. -/
theorem carryOut_cases (run : DebugRun δ) (command : StepCommand) :
    (∃ stepped halted message, run.call (Controller.handle command) = (some (.ok ()), stepped) ∧
      stepped.call Controller.waitForHalt = (some (.ok message), halted) ∧
      run.carryOut command = (.goesOn, halted.report message)) ∨
    ∃ ending stopped, run.carryOut command = (ending, stopped) ∧ ending ≠ .goesOn ∧
      stopped.output = run.output := by
  unfold carryOut
  split
  next stepped hstep =>
    unfold halt
    split
    next message halted hwait => exact .inl ⟨stepped, halted, message, hstep, hwait, rfl⟩
    next error stopped hwait =>
      exact .inr ⟨_, stopped, rfl, by simp, (output_of_call hwait).trans (output_of_call hstep)⟩
    next stopped hwait =>
      exact .inr ⟨_, stopped, rfl, by simp, (output_of_call hwait).trans (output_of_call hstep)⟩
  next error stopped hstep => exact .inr ⟨_, stopped, rfl, by simp, output_of_call hstep⟩
  next stopped hstep => exact .inr ⟨_, stopped, rfl, by simp, output_of_call hstep⟩

/-- How commands end a run: the first of them are carried out, and either that is all of them, or
the next one ends the run, whatever follows it. -/
theorem exists_obeys (run : DebugRun δ) (commands : List StepCommand) :
    ∃ done messages reached, Obeys run done messages reached ∧
      (commands = done ∧ run.obey commands = (.goesOn, reached) ∨
        ∃ command rest ending stopped, commands = done ++ command :: rest ∧
          reached.carryOut command = (ending, stopped) ∧ ending ≠ .goesOn ∧
          stopped.output = reached.output ∧
          ∀ others, run.obey (done ++ command :: others) = (ending, stopped)) := by
  induction commands generalizing run with
  | nil => exact ⟨[], [], run, .done run, .inl ⟨rfl, rfl⟩⟩
  | cons command commands ih =>
    obtain ⟨stepped, halted, message, hstep, hwait, hcarry⟩ |
      ⟨ending, stopped, hcarry, hends, hout⟩ := run.carryOut_cases command
    · obtain ⟨done, messages, reached, hobeys, hend⟩ := ih (halted.report message)
      refine ⟨command :: done, message :: messages, reached, .halt hstep hwait hobeys, ?_⟩
      obtain ⟨rfl, hall⟩ | ⟨next, rest, ending, stopped, rfl, hnext, hends, hout, hstops⟩ := hend
      · exact .inl ⟨rfl, by rw [obey, hcarry]; exact hall⟩
      · refine .inr ⟨next, rest, ending, stopped, rfl, hnext, hends, hout, fun others => ?_⟩
        rw [List.cons_append, obey, hcarry]
        exact hstops others
    · refine ⟨[], [], run, .done run, .inr ⟨command, commands, ending, stopped, rfl, hcarry, hends,
        hout, fun others => ?_⟩⟩
      rw [List.nil_append, obey, hcarry]
      split
      next h => cases h; exact absurd rfl hends
      next => rfl

/-- Bytes that hold some lines of text. -/
def HasLines (input : Bytes) (lines : List (List Char)) : Prop :=
  inputLines input = lines.map Utf8.encode

instance (input : Bytes) (lines : List (List Char)) : Decidable (HasLines input lines) :=
  inferInstanceAs (Decidable (_ = _))

theorem hasLines_ofLines {lines : List (List Char)} (h : ∀ line ∈ lines, '\n' ∉ line) :
    HasLines (ofLines lines) lines :=
  inputLines_ofLines h

end DebugRun

open DebugRun

/-- The error in which a run ends, with its causes. -/
def Ending.failure? : Ending → Option (List String)
  | failed chain => some chain
  | _ => none

variable {β : Type} [UsbBus β]

/-- Starts a session with a program. -/
def begin (settings : Settings) (link : Hf2Link β) (program : Except CompileError Program) :
    Ending × DebugRun (Hf2Link β) :=
  DebugRun.halt ⟨.new settings.session, link, []⟩ ["Failed to start the debug session"]
    (Controller.startDebug (Link.capabilities link) program)

/-- What a run leaves behind that has ended. -/
def finished (ended : Ending × DebugRun (Hf2Link β)) : Finished β :=
  ⟨ended.2.output, ended.1.failure?, ended.2.link.bus⟩

/-- With `input` to be read, the build makes a program and leaves some lines. -/
def Leaves (settings : Settings) (files : Files) (input : Bytes)
    (program : Except CompileError Program) (lines : List (List Char)) : Prop :=
  ∃ after, settings.artifacts.compile .forSession ⟨files, input⟩ = (program, after) ∧
    HasLines after.input lines

variable {settings : Settings} {files : Files} {input : Bytes} {bus : β}
  {program : Except CompileError Program} {lines : List (List Char)}

theorem leaves_of_sparesInput (h : settings.artifacts.SparesInput files) :
    ∃ program, ∀ input lines, HasLines input lines → Leaves settings files input program lines := by
  obtain ⟨result, after, hspares⟩ := h
  exact ⟨result, fun input lines hlines => ⟨_, hspares input, hlines⟩⟩

/-- Without a device, nothing is built. -/
theorem debug_of_error {error : LinkError} {after : β}
    (h : connect settings.device bus = (.error error, after)) (files : Files) (input : Bytes) :
    debug settings files input bus =
      ⟨[], some ("Failed to open the HF2 device" :: error.chain), after⟩ := by
  have hopened : (LazyLink.new.getOrConnect (connect settings.device)).run bus =
      ((.error error, .new), after) := by
    simp only [LazyLink.getOrConnect, LazyLink.new, StateT.run, bind, StateT.bind, h]
    rfl
  simp only [debug, hopened]

/-- Otherwise the session is started, and goes over the lines that the build leaves. -/
theorem debug_of_ok {link : Hf2Link β} {after : β} {built : Artifacts.Built}
    (h : connect settings.device bus = (.ok link, after))
    (hcompile : settings.artifacts.compile .forSession ⟨files, input⟩ = (program, built)) :
    debug settings files input bus =
      finished (match begin settings link program with
        | (.goesOn, run) => run.carryOutAll (inputLines built.input)
        | ended => ended) := by
  have hopened : (LazyLink.new.getOrConnect (connect settings.device)).run bus =
      ((.ok link, ⟨some link⟩), after) := by
    simp only [LazyLink.getOrConnect, LazyLink.new, StateT.run, bind, StateT.bind, h]
    rfl
  simp only [debug, hopened, hcompile]
  rfl

theorem debug_of_leaves {link : Hf2Link β} {after : β}
    (h : connect settings.device bus = (.ok link, after))
    (hleaves : Leaves settings files input program lines) :
    debug settings files input bus =
      finished (match begin settings link program with
        | (.goesOn, run) => run.obey (commands lines)
        | ended => ended) := by
  obtain ⟨built, hcompile, hlines⟩ := hleaves
  rw [debug_of_ok h hcompile, hlines]
  simp only [carryOutAll_encode]

/-- A session with a program on the device that is meant, at its first halt. -/
def AtFirstHalt (settings : Settings) (bus : β) (program : Except CompileError Program)
    (first : HaltMessage) (run : DebugRun (Hf2Link β)) : Prop :=
  ∃ link after, connect settings.device bus = (.ok link, after) ∧
    DebugRun.call ⟨.new settings.session, link, []⟩
      (Controller.startDebug (Link.capabilities link) program) = (some (.ok first), run)

/-- Only the commands on the lines count. -/
theorem debug_congr {other : Bytes} {more : List (List Char)}
    (hleaves : Leaves settings files input program lines)
    (hother : Leaves settings files other program more) (h : commands more = commands lines) :
    debug settings files other bus = debug settings files input bus := by
  cases hconnect : connect settings.device bus with
  | mk result after =>
    cases result with
    | error error => rw [debug_of_error hconnect, debug_of_error hconnect]
    | ok link => rw [debug_of_leaves hconnect hleaves, debug_of_leaves hconnect hother, h]

/-- If the session comes to a first halt, the commands are carried out from there. -/
theorem debug_of_atFirstHalt {first : HaltMessage} {run : DebugRun (Hf2Link β)}
    (h : AtFirstHalt settings bus program first run)
    (hleaves : Leaves settings files input program lines) :
    debug settings files input bus = finished ((run.report first).obey (commands lines)) := by
  obtain ⟨link, after, hconnect, hcall⟩ := h
  rw [debug_of_leaves hconnect hleaves, begin, halt, hcall]

/-- If it does not, nothing is written, and no line counts. -/
theorem debug_of_not_atFirstHalt (h : ∀ first run, ¬AtFirstHalt settings bus program first run) :
    ∃ failure after, ∀ files input lines, Leaves settings files input program lines →
      debug settings files input bus = ⟨[], failure, after⟩ := by
  cases hconnect : connect settings.device bus with
  | mk result after =>
    cases result with
    | error error => exact ⟨_, _, fun files input _ _ => debug_of_error hconnect files input⟩
    | ok link =>
      cases hcall : DebugRun.call ⟨.new settings.session, link, []⟩
          (Controller.startDebug (Link.capabilities link) program) with
      | mk result run =>
        have hout : run.output = [] := output_of_call hcall
        match result, hcall with
        | some (.ok first), hcall => exact absurd ⟨link, after, hconnect, hcall⟩ (h first run)
        | some (.error error), hcall =>
          let chain := "Failed to start the debug session" :: error.chain
          refine ⟨some chain, run.link.bus, fun files input lines hleaves => ?_⟩
          rw [debug_of_leaves hconnect hleaves, begin, halt, hcall, finished, hout]
          rfl
        | none, hcall =>
          refine ⟨none, run.link.bus, fun files input lines hleaves => ?_⟩
          rw [debug_of_leaves hconnect hleaves, begin, halt, hcall, finished, hout]
          rfl

/-- A bus with a board that says nothing. -/
def silentBus : ScriptedBus :=
  { ScriptedBus.empty with devices := [⟨0x239a, 0x18, Hf2.usagePage, none, none, "/dev/hidraw0"⟩] }

/-- Lines without a command do not count, provided that the build command leaves the lines alone.
Of the lines that it leaves, only the commands count: if there is no first halt, none of them, and
otherwise the first of them up to one that fails or waits for ever. The first halt and each that a
command leads to are one line of output, in their order. -/
theorem debug_by_commands (settings : Settings) (files : Files) (bus : β) :
    (settings.artifacts.SparesInput files → ∀ input kept lines, HasLines input lines →
      HasLines kept (lines.filter fun line => (command? line).isSome) →
      debug settings files kept bus = debug settings files input bus) ∧
    ∀ input program lines, Leaves settings files input program lines →
      let result := debug settings files input bus
      (∀ other others, Leaves settings files other program others →
        commands others = commands lines → debug settings files other bus = result) ∧
      ((∀ first run, ¬AtFirstHalt settings bus program first run) ∧ result.output = [] ∧
          (∀ other others, Leaves settings files other program others →
            debug settings files other bus = result) ∨
        ∃ first run done messages reached, AtFirstHalt settings bus program first run ∧
          Obeys (run.report first) done messages reached ∧ messages.length = done.length ∧
          result.output = (first :: messages).map (·.line) ∧
          (commands lines = done ∧ result.failure = none ∧ result.bus = reached.link.bus ∨
            ∃ command rest ending stopped, commands lines = done ++ command :: rest ∧
              reached.carryOut command = (ending, stopped) ∧ ending ≠ .goesOn ∧
              result.failure = ending.failure? ∧ result.bus = stopped.link.bus ∧
              ∀ other others more, Leaves settings files other program others →
                commands others = done ++ command :: more →
                debug settings files other bus = result)) := by
  constructor
  · intro hspares input kept lines hlines hkept
    obtain ⟨program, hall⟩ := leaves_of_sparesInput hspares
    exact debug_congr (hall _ _ hlines) (hall _ _ hkept) (commands_filter lines)
  intro input program lines hleaves result
  refine ⟨fun other others hother heq => debug_congr hleaves hother heq, ?_⟩
  by_cases hfirst : ∃ first run, AtFirstHalt settings bus program first run
  · obtain ⟨first, run, hfirst⟩ := hfirst
    right
    have hrun : run.output = [] := by
      obtain ⟨link, after, -, hcall⟩ := hfirst
      exact output_of_call hcall
    have hresult : ∀ {other others}, Leaves settings files other program others →
        debug settings files other bus = finished ((run.report first).obey (commands others)) :=
      debug_of_atFirstHalt hfirst
    obtain ⟨done, messages, reached, hobeys, hend⟩ :=
      exists_obeys (run.report first) (commands lines)
    have hout : reached.output = (first :: messages).map (·.line) := by
      rw [hobeys.output, report, hrun]
      simp
    refine ⟨first, run, done, messages, reached, hfirst, hobeys, hobeys.length, ?_⟩
    obtain ⟨hdone, hall⟩ |
      ⟨command, rest, ending, stopped, hsplit, hcarry, hends, hstopped, hall⟩ := hend
    · have : result = finished (.goesOn, reached) := (hresult hleaves).trans (by rw [hall])
      rw [this]
      exact ⟨hout, .inl ⟨hdone, rfl, rfl⟩⟩
    · have : result = finished (ending, stopped) :=
        (hresult hleaves).trans (by rw [hsplit, hall])
      rw [this]
      refine ⟨hstopped.trans hout, .inr ⟨command, rest, ending, stopped, hsplit, hcarry, hends, rfl,
        rfl, fun other others more hother hcommands => ?_⟩⟩
      rw [hresult hother, hcommands, hall]
  · have hnone : ∀ first run, ¬AtFirstHalt settings bus program first run :=
      fun first run h => hfirst ⟨first, run, h⟩
    obtain ⟨failure, after, hall⟩ := debug_of_not_atFirstHalt hnone
    have : result = ⟨[], failure, after⟩ := hall _ _ _ hleaves
    rw [this]
    exact .inl ⟨hnone, rfl, fun other others hother => hall _ _ _ hother⟩

/-- Without a build command a blank line, and a message for somebody else, do not count. -/
theorem debug_by_commands_standard :
    let settings : Settings := ⟨⟨none, none⟩, .standard, .standard, .standard⟩
    let kept := ["\x7b\"type\":\"debugger\",\"subtype\":\"stepover\"\x7d".toList]
    let lines := [] :: "\x7b\"type\":\"simulator\"\x7d".toList :: kept
    settings.artifacts.SparesInput .empty ∧ HasLines (ofLines lines) lines ∧
      HasLines (ofLines kept) (lines.filter fun line => (command? line).isSome) ∧
      debug settings .empty (ofLines kept) silentBus =
        debug settings .empty (ofLines lines) silentBus ∧
      ∃ program, Leaves settings .empty (ofLines lines) program lines ∧
        Leaves settings .empty (ofLines kept) program kept ∧ commands kept = commands lines ∧
        debug settings .empty (ofLines kept) silentBus =
          debug settings .empty (ofLines lines) silentBus := by
  intro settings kept lines
  have hspares : settings.artifacts.SparesInput .empty := Artifacts.sparesInput_of_nil rfl _
  have hlines : HasLines (ofLines lines) lines := hasLines_ofLines (by decide +kernel)
  have hfilter : lines.filter (fun line => (command? line).isSome) = kept := by decide +kernel
  have hkept : HasLines (ofLines kept) (lines.filter fun line => (command? line).isSome) :=
    hfilter ▸ hasLines_ofLines (by decide +kernel)
  have hcommands : commands kept = commands lines := hfilter ▸ commands_filter lines
  obtain ⟨hfirst, hsecond⟩ := debug_by_commands settings .empty silentBus
  obtain ⟨program, hall⟩ := leaves_of_sparesInput hspares
  have hleaves := hall _ _ hlines
  have hothers := hall _ _ (hfilter ▸ hkept)
  exact ⟨hspares, hlines, hkept, hfirst hspares _ _ _ hlines hkept, program, hleaves, hothers,
    hcommands, (hsecond _ _ _ hleaves).1 _ _ hothers hcommands⟩

/-- The build command may read a line, be it blank: then the build fails without it. -/
theorem blank_line_counts :
    let reading : Artifacts :=
      { Artifacts.standard with buildCommand := ["/usr/bin/sh", "-c", "read x"] }
    let settings : Settings := ⟨⟨none, none⟩, .standard, .standard, reading⟩
    HasLines [0x0a] [[]] ∧
      HasLines [] ([[]].filter fun line => (command? line).isSome) ∧
      debug settings .empty [] silentBus ≠ debug settings .empty [0x0a] silentBus := by
  intro reading settings
  have hconnect : ∃ link after, connect settings.device silentBus = (.ok link, after) :=
    ⟨_, _, rfl⟩
  obtain ⟨link, after, hconnect⟩ := hconnect
  have hfailure {input : Bytes} {error : CompileError} {built : Artifacts.Built}
      (h : settings.artifacts.compile .forSession ⟨.empty, input⟩ = (.error error, built)) :
      (debug settings .empty input silentBus).failure =
        some ("Failed to start the debug session" :: "Compilation failed" :: error.chain) := by
    rw [debug_of_ok hconnect h]
    rfl
  obtain ⟨read, hread, hok⟩ := Build.launch_read [0x0a] 0 (by decide +kernel)
  obtain ⟨unread, hunread, hfails⟩ := Build.launch_read [] 1 (by decide +kernel)
  have hmissing (files : Files) : files.read "" = .error .missing := by
    have hspell : Octets.spell "" = "" := by decide +kernel
    have hnul : "".contains '\x00' = false := by simp
    simp [Files.read, Files.contents, Files.find, Files.at?, Files.lookup, hspell, hnul]
  have hbuilt : settings.artifacts.compile .forSession ⟨.empty, [0x0a]⟩ =
      (.error (.file "" .missing), ⟨read.files, read.input⟩) := by
    simp [Artifacts.compile, CompileOptions.forSession, Artifacts.build, settings, reading, hread,
      hok, Artifacts.load, Artifacts.standard, hmissing]
  have hunbuilt : ∃ command output,
      settings.artifacts.compile .forSession ⟨.empty, []⟩ =
        (.error (.failed command (.exited 1) output), ⟨unread.files, unread.input⟩) := by
    simp [Artifacts.compile, CompileOptions.forSession, Artifacts.build, settings, reading,
      hunread, hfails]
  obtain ⟨command, output, hunbuilt⟩ := hunbuilt
  refine ⟨rfl, by decide +kernel, fun heq => ?_⟩
  have := congrArg Finished.failure heq
  rw [hfailure hbuilt, hfailure hunbuilt] at this
  simp [CompileError.chain] at this

end CommandLine

end BoardDebug
