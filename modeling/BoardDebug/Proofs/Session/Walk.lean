import BoardDebug.Proofs.Device.Requests
import BoardDebug.Proofs.Procedure.Index
import BoardDebug.Proofs.Session.Errands

namespace BoardDebug

open Call Call.Run Routine

namespace SimulatedDevice

/-- A device with nothing set up to fail, which halts at `halts` in turn and tells of it. Its area
does not reach past the last address, and shows `globals`. -/
structure Ready (d : SimulatedDevice) (area : GlobalsArea) (index : ProcedureIndex)
    (globals : Globals) (halts : List UInt32) : Prop where
  events : d.capabilities.events
  failures : d.failures = []
  queued : d.halts = halts
  told : d.area = area
  fits : area.address.toNat + 4 * area.count.toNat ≤ UInt32.size
  shown : Globals.ofArea (d.memory.readWords area.address area.count.toNat) index = globals

variable {d : SimulatedDevice} {area : GlobalsArea} {index : ProcedureIndex} {globals : Globals}
  {halts : List UInt32}

theorem Ready.note (h : d.Ready area index globals halts) (request : Request) :
    (d.note request).Ready area index globals halts :=
  ⟨h.events, h.failures, h.queued, h.told, h.fits, h.shown⟩

theorem Ready.arm (h : d.Ready area index globals halts) (addresses : List UInt32) :
    (d.arm addresses).Ready area index globals halts :=
  ⟨h.events, h.failures, h.queued, h.told, h.fits, h.shown⟩

theorem Ready.inform (h : d.Ready area index globals halts) (known : Option GlobalsArea) :
    (d.inform known).Ready area index globals halts := by
  cases known with
  | some _ => exact h
  | none => exact h.note _

/-- The globals do not show the status cell. -/
theorem Ready.shown_write (h : d.Ready area index globals halts) (word : UInt32) :
    Globals.ofArea ((d.memory.write area.address word).readWords area.address area.count.toNat)
      index = globals := by
  have hshown := h.shown
  unfold Globals.ofArea at hshown ⊢
  rw [Memory.tail_readWords_write d.memory h.fits]
  exact hshown

theorem Ready.store (h : d.Ready area index globals halts) (word : UInt32) :
    (d.store area.address [word]).Ready area index globals halts :=
  ⟨h.events, h.failures, h.queued, h.told, h.fits, h.shown_write word⟩

theorem Ready.mark (h : d.Ready area index globals halts) {s : Session} (hs : s.areaOn d = area)
    (status : DebugStatus) : (d.mark s status).Ready area index globals halts := by
  unfold SimulatedDevice.mark
  split
  · exact h
  · rw [hs]
    exact (h.inform _).store _

theorem Ready.run {pc : UInt32} (h : d.Ready area index globals (pc :: halts)) :
    d.run.Ready area index globals halts :=
  ⟨h.events, h.failures, by simp [SimulatedDevice.run, h.queued], h.told, h.fits, h.shown⟩

theorem Ready.boot {pc : UInt32} (h : d.Ready area index globals (pc :: halts)) (image : Image) :
    (d.boot image).Ready area index globals halts := by
  have haddress : d.globalsAddress = area.address := congrArg GlobalsArea.address h.told
  have hwritten : ({ d.note (.flash image) with
      flashed := some image
      memory := d.memory.write d.globalsAddress DebugStatus.disabled.word } :
        SimulatedDevice).Ready area index globals (pc :: halts) := by
    -- The image resets the status cell, which the globals do not show.
    refine ⟨h.events, h.failures, h.queued, h.told, h.fits, ?_⟩
    rw [haddress]
    exact h.shown_write _
  exact hwritten.run

theorem Ready.not_breaks (h : d.Ready area index globals halts) (e : SessionError) :
    ¬d.Breaks e := by
  rintro ⟨kind, hkind, -⟩
  rw [h.failures] at hkind
  cases hkind

end SimulatedDevice

namespace Session

variable {s : Session} {d : SimulatedDevice} {listening : Bool}

/-- A session that sets a device going hears of the halt that was queued there. -/
theorem outcome_go (hwait : s.wait = none) (hevents : d.capabilities.events) {pc : UInt32}
    {pcs : List UInt32} (hhalts : d.halts = pc :: pcs) :
    (s.go true d).outcome? = some (.halted pc) := by
  have hstate := Latch.state_complete (Latch.armed_arm s.latch) s.latch.state_arm (.halted pc)
  unfold go hear
  rw [arm_of_none hwait]
  simp only [hhalts, List.head?_cons, hevents, and_self, if_true, setRunning, outcome?,
    Latch.fulfill, Latch.state_setRunning, hstate]

theorem ends_waitForHalt {pc : UInt32} (hphase : s.phase = .armed)
    (houtcome : s.outcome? = some (.halted pc))
    {ok : HaltMessage → Session → SimulatedDevice → Prop}
    {bad : SessionError → Session → SimulatedDevice → Prop} :
    (run (notify listening) waitForHalt s d).Ends ok bad ↔
      (run (notify listening) (halted pc) s.dropWait d).Ends ok bad := by
  unfold waitForHalt
  rw [ends_bind, run_expectPhase_of_eq hphase, ends_ok, ends_bind, run_await houtcome, ends_ok,
    ends_bind, run_modify, ends_ok]

/-- A session whose device halts at `pc`, with the status that it has written, if it has. -/
structure Runs (s : Session) (program : Program) (table : BreakpointTable) (area : GlobalsArea)
    (status : Option DebugStatus) (pc : UInt32) : Prop where
  phase : s.phase = .armed
  outcome : s.outcome? = some (.halted pc)
  index_eq : s.index = .ofList program.procedures
  table_eq : s.table = table
  area_eq : s.area = status.map fun _ => area
  status_eq : s.status = status
  halted_eq : s.hasHalted = status.isSome

/-- A session that is paused at `current`, with the status that it has written. -/
structure Stands (s : Session) (program : Program) (table : BreakpointTable) (area : GlobalsArea)
    (status : DebugStatus) (current : Breakpoint) : Prop where
  phase : s.phase = .paused
  current_eq : s.current = some current
  index_eq : s.index = .ofList program.procedures
  table_eq : s.table = table
  area_eq : s.area = some area
  status_eq : s.status = some status
  halted_eq : s.hasHalted = true
  wait_eq : s.wait = none

variable {program : Program} {table : BreakpointTable} {area : GlobalsArea} {globals : Globals}
  {pc : UInt32} {pcs : List UInt32}

theorem runs_go {status : Option DebugStatus} (hwait : s.wait = none)
    (hindex : s.index = .ofList program.procedures) (htable : s.table = table)
    (harea : s.area = status.map fun _ => area) (hstatus : s.status = status)
    (hhalted : s.hasHalted = status.isSome) (hevents : d.capabilities.events)
    (hhalts : d.halts = pc :: pcs) : (s.go true d).Runs program table area status pc := by
  have houtcome := outcome_go hwait hevents hhalts
  have hgo : s.go true d = { s with
      phase := .armed, wait := (s.go true d).wait, latch := (s.go true d).latch } := by
    unfold go hear
    rw [arm_of_none hwait]
    rfl
  rw [hgo] at houtcome ⊢
  exact ⟨rfl, houtcome, hindex, htable, harea, hstatus, hhalted⟩

theorem runs_flashAndArm {entry : Breakpoint} {observer : Observer}
    (hentry : table.entry? = some entry)
    (hd : d.Ready area (.ofList program.procedures) globals (pc :: pcs)) :
    (run (notify true) flashAndArm (.new program table observer) d).Ends
      (fun _ s' d' => s'.Runs program table area none pc ∧
        d'.Ready area (.ofList program.procedures) globals pcs ∧
        d'.log = d.log ++ [.talk Opcode.setBreakpoints (wordBytes [entry.address]),
          .flash program.image.blocks.length])
      (fun _ _ _ => False) := by
  refine (ends_flashAndArm _ d).mono ?_ ?_
  · rintro _ s' d' ⟨entry', hentry', rfl, rfl⟩
    obtain rfl : entry' = entry := Option.some.inj (hentry'.symm.trans hentry)
    refine ⟨runs_go rfl rfl rfl rfl rfl rfl hd.events hd.queued, (hd.arm _).boot _, ?_⟩
    simp [SimulatedDevice.boot, SimulatedDevice.run, SimulatedDevice.arm, SimulatedDevice.note,
      Operation.ofRequest, Request.setBreakpoints, new]
  · rintro e s' d' (⟨-, hnone, -⟩ | hbreaks)
    · simp [new, hentry] at hnone
    · exact hd.not_breaks e hbreaks

theorem mark_of_area (harea : s.area = some area) (status : DebugStatus) :
    s.mark status d = { s with area := some area, status := some status } := by
  unfold mark areaOn
  split
  case isTrue hstatus => rw [← harea, ← hstatus]
  case isFalse => rw [harea]; rfl

/-- The requests by which a session goes on from `current`. -/
def stepLog (table : BreakpointTable) (area : GlobalsArea) (status : DebugStatus)
    (current : Breakpoint) (into : Bool) : List Operation :=
  .talk Opcode.setBreakpoints (wordBytes (table.successorAddresses current)) ::
    ((if status = stepStatus into then []
      else [.writeWords area.address [(stepStatus into).word]]) ++ [.talk Opcode.resume []])

/-- The requests by which a session learns of a halt; at the first one it writes its status. -/
def haltLog (area : GlobalsArea) : Option DebugStatus → List Operation
  | some _ => [.readWords area.address area.count]
  | none =>
    [.talk Opcode.getGlobals [], .readWords area.address area.count,
      .writeWords area.address [DebugStatus.breakpoints.word]]

theorem log_proceed (harea : s.area = some area) {status : DebugStatus}
    (hstatus : s.status = some status) (into : Bool) (current : Breakpoint) :
    (d.proceed s into current).log = d.log ++ stepLog s.table area status current into := by
  unfold SimulatedDevice.proceed SimulatedDevice.mark stepLog areaOn
  rw [hstatus, harea]
  simp only [Option.some.injEq]
  split <;> simp [SimulatedDevice.run, SimulatedDevice.arm, SimulatedDevice.note,
    SimulatedDevice.store, SimulatedDevice.inform, Operation.ofRequest, Request.setBreakpoints,
    Request.resume]

theorem runs_step {status : DebugStatus} {current : Breakpoint}
    (hs : s.Stands program table area status current)
    (hd : d.Ready area (.ofList program.procedures) globals (pc :: pcs)) (into : Bool) :
    (run (notify true) (step into) s d).Ends
      (fun _ s' d' => s'.Runs program table area (some (stepStatus into)) pc ∧
        d'.Ready area (.ofList program.procedures) globals pcs ∧
        d'.log = d.log ++ stepLog table area status current into)
      (fun _ _ _ => False) := by
  refine (ends_step hs.phase hs.current_eq into).mono ?_ fun e _ _ => hd.not_breaks e
  rintro _ s' d' ⟨rfl, rfl⟩
  have harea : s.areaOn d = area := by simp [areaOn, hs.area_eq]
  refine ⟨?_, ?_, ?_⟩
  · have hmark := mark_of_area (d := d)
      (s := { s with phase := .resuming, pending := s.table.successorAddresses current })
      hs.area_eq (stepStatus into)
    unfold proceed
    dsimp only
    rw [hmark]
    exact runs_go hs.wait_eq hs.index_eq hs.table_eq rfl rfl hs.halted_eq hd.events hd.queued
  · exact (((hd.arm _).mark harea _).note _).run
  · rw [log_proceed hs.area_eq hs.status_eq, hs.table_eq]

theorem stands_pause {status : Option DebugStatus} (hindex : s.index = .ofList program.procedures)
    (htable : s.table = table) (harea : s.areaOn d = area) (hstatus : s.status = status)
    (hhalted : s.hasHalted = status.isSome) (hwait : s.wait = none) :
    (s.pause pc d).Stands program table area (status.getD .breakpoints)
      (table.resolve (s.place pc)) := by
  have hexplain : (s.explain pc d).area = some area := by rw [explain, harea]
  have hmark := mark_of_area (d := d) hexplain .breakpoints
  unfold pause
  cases status with
  | none =>
    rw [if_neg (by simp [hhalted]), hmark]
    exact ⟨rfl, by rw [← htable]; rfl, hindex, htable, rfl, rfl, rfl, hwait⟩
  | some status =>
    rw [if_pos (by simp [hhalted])]
    exact ⟨rfl, by rw [← htable]; rfl, hindex, htable, hexplain, hstatus, rfl, hwait⟩

theorem ready_tell {status : Option DebugStatus} (harea : s.areaOn d = area)
    (hknown : s.area = status.map fun _ => area) (hstatus : s.status = status)
    (hhalted : s.hasHalted = status.isSome)
    (hd : d.Ready area (.ofList program.procedures) globals pcs) :
    (d.tell s).Ready area (.ofList program.procedures) globals pcs ∧
      (d.tell s).log = d.log ++ haltLog area status := by
  unfold SimulatedDevice.tell
  cases status with
  | none =>
    rw [if_neg (by simp [hhalted]), hknown, harea]
    refine ⟨((hd.inform _).note _).mark rfl _, ?_⟩
    simp [SimulatedDevice.mark, hstatus, SimulatedDevice.store, SimulatedDevice.note,
      SimulatedDevice.inform, haltLog, areaOn, Operation.ofRequest]
  | some status =>
    rw [if_pos (by simp [hhalted]), hknown, harea]
    exact ⟨(hd.inform _).note _, rfl⟩

theorem stands_waitForHalt {status : Option DebugStatus}
    (hs : s.Runs program table area status pc)
    (hd : d.Ready area (.ofList program.procedures) globals pcs) :
    (run (notify true) waitForHalt s d).Ends
      (fun message s' d' =>
        message = .new (table.resolve
          (Procedure.place (Procedure.standing program.procedures) pc)).id globals ∧
        s'.Stands program table area (status.getD .breakpoints) (table.resolve
          (Procedure.place (Procedure.standing program.procedures) pc)) ∧
        d'.Ready area (.ofList program.procedures) globals pcs ∧
        d'.log = d.log ++ haltLog area status)
      (fun _ _ _ => False) := by
  rw [ends_waitForHalt hs.phase hs.outcome]
  refine (ends_halted s.dropWait d pc).mono ?_ fun e _ _ => hd.not_breaks e
  rintro message s' d' ⟨rfl, rfl, rfl⟩
  have hdrop := s.dropWait_eq
  have hplace : s.dropWait.place pc =
      Procedure.place (Procedure.standing program.procedures) pc := by
    rw [hdrop, place, hs.index_eq]
    exact Procedure.place_eq program.procedures pc
  have hindex : s.dropWait.index = .ofList program.procedures := by rw [hdrop, hs.index_eq]
  have htable : s.dropWait.table = table := by rw [hdrop, hs.table_eq]
  have hknown : s.dropWait.area = status.map fun _ => area := by rw [hdrop, hs.area_eq]
  have hstatus : s.dropWait.status = status := by rw [hdrop, hs.status_eq]
  have hhalted : s.dropWait.hasHalted = status.isSome := by rw [hdrop, hs.halted_eq]
  have harea : s.dropWait.areaOn d = area := by
    rw [areaOn, hknown]
    cases status with
    | none => exact hd.told
    | some _ => rfl
  rw [← hplace]
  refine ⟨?_, ?_, ready_tell harea hknown hstatus hhalted hd⟩
  · rw [htable, harea, hindex, hd.shown]
  · exact stands_pause hindex htable harea hstatus hhalted s.wait_dropWait

end Session

namespace Controller

/-- Takes one step after the other, and waits for a halt after each of them. -/
def follow : List StepCommand → Routine Controller (List HaltMessage)
  | [] => pure []
  | command :: commands => do
    handle command
    let message ← waitForHalt
    let messages ← follow commands
    return message :: messages

/-- Debugs a program with the given steps. -/
def debug (has : Capabilities) (compiled : Except CompileError Program)
    (commands : List StepCommand) : Routine Controller (List HaltMessage) := do
  let message ← startDebug has compiled
  let messages ← follow commands
  return message :: messages

variable {c : Controller} {s : Session} {d : SimulatedDevice}

theorem ends_onSession {α : Type} {call : Routine Session α}
    {ok : α → Session → SimulatedDevice → Prop} (hsession : c.session = some s)
    (h : (run (Session.notify c.listening) call s d).Ends ok fun _ _ _ => False) :
    (run notify (onSession call) c d).Ends (fun a c' d' => ∃ s', c' = c.seat s' ∧ ok a s' d')
      fun _ _ _ => False := by
  rw [run_onSession hsession]
  generalize run (Session.notify c.listening) call s d = r at h
  obtain ⟨result, s', d'⟩ := r
  rcases result with _ | e | a
  · exact h.elim
  · exact h.elim
  · exact ⟨s', rfl, h⟩

variable {program : Program} {table : BreakpointTable} {area : GlobalsArea} {globals : Globals}

/-- The requests of the steps after a halt at `pc`: each one goes on from the breakpoint that
explains the halt before it, and writes its status if it is not the one written last. -/
def followLog (table : BreakpointTable) (area : GlobalsArea) (place : UInt32 → UInt32) :
    DebugStatus → UInt32 → List StepCommand → List UInt32 → List Operation
  | status, pc, command :: commands, next :: pcs =>
    Session.stepLog table area status (table.resolve (place pc)) command.isInto ++
      Session.haltLog area (some status) ++
      followLog table area place (stepStatus command.isInto) next commands pcs
  | _, _, _, _ => []

theorem ends_follow {status : DebugStatus} {pc : UInt32} {pcs : List UInt32}
    {commands : List StepCommand} (hsession : c.session = some s) (hlistening : c.listening = true)
    (hs : s.Stands program table area status
      (table.resolve (Procedure.place (Procedure.standing program.procedures) pc)))
    (hd : d.Ready area (.ofList program.procedures) globals pcs)
    (hlength : commands.length = pcs.length) :
    (run notify (follow commands) c d).Ends
      (fun messages _ d' =>
        messages = pcs.map (fun pc => .new (table.resolve
          (Procedure.place (Procedure.standing program.procedures) pc)).id globals) ∧
        d'.log = d.log ++ followLog table area
          (Procedure.place (Procedure.standing program.procedures)) status pc commands pcs)
      fun _ _ _ => False := by
  induction commands generalizing c s d status pc pcs with
  | nil =>
    obtain rfl : pcs = [] := List.length_eq_zero_iff.1 hlength.symm
    unfold follow
    rw [run_pure, ends_ok]
    exact ⟨rfl, by simp [followLog]⟩
  | cons command commands ih =>
    cases pcs with
    | nil => cases hlength
    | cons next pcs =>
      unfold follow
      -- A step and a wait take the session from one halt to the next.
      have hstep := Session.runs_step hs hd command.isInto
      rw [← hlistening] at hstep
      refine ends_of_bind (ends_onSession hsession hstep) ?_
      rintro _ c' d' ⟨s', rfl, hs', hd', hlog'⟩
      have hwait := Session.stands_waitForHalt hs' hd'
      rw [← hlistening] at hwait
      refine ends_of_bind (ends_onSession (c := c.seat s') rfl hwait) ?_
      rintro message c'' d'' ⟨s'', rfl, rfl, hs'', hd'', hlog''⟩
      refine ends_of_bind (ih rfl hlistening hs'' hd'' (by simpa using hlength)) ?_
      rintro messages c₃ d₃ ⟨rfl, hlog₃⟩
      rw [run_pure, ends_ok]
      refine ⟨rfl, ?_⟩
      rw [hlog₃, hlog'', hlog', followLog]
      simp [Session.haltLog]

theorem opening_push {has : Capabilities} {config : SessionConfig}
    (htable : BreakpointTable.ofList? program.breakpoints = some table) (hevents : has.events)
    (hstrategy : config.strategy ≠ .poll) :
    opening has (.ok program) config = .ok (.new program table .push, .push) := by
  have hinstall : Observer.install has config.strategy config.pollInterval = .ok .push := by
    cases hs : config.strategy with
    | auto => simp [Observer.install, HaltStrategy.usesEvents, hevents, Except.map]
    | push => simp [Observer.install, HaltStrategy.usesEvents, hevents, Except.map]
    | poll => exact absurd hs hstrategy
  simp only [opening, htable, hinstall]

/-- The requests of a start, up to the first halt. -/
def startLog (entry : Breakpoint) (image : Image) (area : GlobalsArea) : List Operation :=
  [.talk Opcode.setBreakpoints (wordBytes [entry.address]), .flash image.blocks.length] ++
    Session.haltLog area none

theorem ends_startDebug {entry : Breakpoint} {pc : UInt32} {pcs : List UInt32}
    (htable : BreakpointTable.ofList? program.breakpoints = some table)
    (hentry : table.entry? = some entry) (hstrategy : c.config.strategy ≠ .poll)
    (hd : d.Ready area (.ofList program.procedures) globals (pc :: pcs)) :
    (run notify (startDebug d.capabilities (.ok program)) c d).Ends
      (fun message c' d' => ∃ s', c'.session = some s' ∧ c'.listening = true ∧
        message = .new (table.resolve
          (Procedure.place (Procedure.standing program.procedures) pc)).id globals ∧
        s'.Stands program table area .breakpoints (table.resolve
          (Procedure.place (Procedure.standing program.procedures) pc)) ∧
        d'.Ready area (.ofList program.procedures) globals pcs ∧
        d'.log = d.log ++ startLog entry program.image area)
      fun _ _ _ => False := by
  let begun := c.embark (.new program table .push) .push
  have hlistening : begun.listening = true := by simp [begun, embark]
  have hstart : run notify (start d.capabilities (.ok program)) c d =
      run notify (onSession Session.flashAndArm) begun d := by
    unfold Routine.run
    rw [start_eq, opening_push htable hd.events hstrategy]
  have hflash : (run (Session.notify true) Session.flashAndArm (.new program table .push) d).Ends
      _ _ := Session.runs_flashAndArm hentry hd
  rw [← hlistening] at hflash
  unfold startDebug
  rw [ends_bind, hstart]
  refine (ends_onSession (c := begun) rfl hflash).mono ?_ fun _ _ _ h => h
  rintro _ c' d' ⟨s', rfl, hs', hd', hlog'⟩
  have hwait := Session.stands_waitForHalt hs' hd'
  rw [← hlistening] at hwait
  refine (ends_onSession (c := begun.seat s') rfl hwait).mono ?_ fun _ _ _ h => h
  rintro message c'' d'' ⟨s'', rfl, rfl, hs'', hd'', hlog''⟩
  refine ⟨s'', rfl, hlistening, rfl, hs'', hd'', ?_⟩
  rw [hlog'', hlog', startLog]
  simp

end Controller

/-- A device that tells of its halts, debugged with any steps. Each message names the breakpoint
that explains its halt and the globals as they were put into the device, and the requests are those
of the start and of each step. -/
theorem run_debug {c : Controller} {d : SimulatedDevice} {program : Program}
    {table : BreakpointTable} {entry : Breakpoint} {pc : UInt32} {pcs : List UInt32}
    {commands : List StepCommand}
    (htable : BreakpointTable.ofList? program.breakpoints = some table)
    (hentry : table.entry? = some entry) (hstrategy : c.config.strategy ≠ .poll)
    (hevents : d.capabilities.events) (hfailures : d.failures = []) (hhalts : d.halts = pc :: pcs)
    (hlength : commands.length = pcs.length)
    (hfits : d.globalsAddress.toNat + 4 * d.globalCount.toNat ≤ UInt32.size) :
    let place := Procedure.place (Procedure.standing program.procedures)
    let r := run Controller.notify (Controller.debug d.capabilities (.ok program) commands) c d
    r.result = some (.ok ((pc :: pcs).map fun pc =>
        { breakpointId := (table.resolve (place pc)).id
          globals := .ofArea (d.memory.readWords d.globalsAddress d.globalCount.toNat)
            (.ofList program.procedures)
          frames := [] })) ∧
      r.link.log = d.log ++ Controller.startLog entry program.image d.area ++
        Controller.followLog table d.area place .breakpoints pc commands pcs := by
  intro place r
  have hd : d.Ready d.area (.ofList program.procedures) _ (pc :: pcs) :=
    ⟨hevents, hfailures, hhalts, rfl, hfits, rfl⟩
  have hends : r.Ends (fun messages _ d' =>
      messages = (pc :: pcs).map (fun pc => .new (table.resolve (place pc)).id
        (.ofArea (d.memory.readWords d.globalsAddress d.globalCount.toNat)
          (.ofList program.procedures))) ∧
      d'.log = d.log ++ Controller.startLog entry program.image d.area ++
        Controller.followLog table d.area place .breakpoints pc commands pcs)
      fun _ _ _ => False := by
    refine ends_of_bind (Controller.ends_startDebug htable hentry hstrategy hd) ?_
    rintro message c' d' ⟨s', hsession, hlistening, rfl, hs', hd', hlog'⟩
    refine ends_of_bind (Controller.ends_follow hsession hlistening hs' hd' hlength) ?_
    rintro messages c'' d'' ⟨rfl, hlog''⟩
    rw [run_pure, ends_ok]
    exact ⟨rfl, by rw [hlog'', hlog']⟩
  obtain ⟨result, c', d'⟩ := r
  rcases result with _ | e | messages
  · exact hends.elim
  · exact hends.elim
  · exact ⟨by rw [hends.1]; rfl, hends.2⟩

/-- The ids of the breakpoints in the messages of a run that succeeded. -/
def breakpointIds {σ δ : Type} (r : Run σ δ (Except SessionError (List HaltMessage))) :
    Option (List UInt32) :=
  match r.result with
  | some (.ok messages) => some (messages.map (·.breakpointId))
  | _ => none

/-- A step into a procedure that starts behind its landing pad. -/
theorem run_debug_stepInto :
    let d := SimulatedDevice.sample [0x2100, 0x2300]
    let r := run Controller.notify
      (Controller.debug d.capabilities (.ok Program.sample) [.stepInto]) (.new .standard) d
    breakpointIds r = some [1, 3] ∧
    r.link.log = [.talk Opcode.setBreakpoints (wordBytes [0x2100]), .flash 0,
      .talk Opcode.getGlobals [], .readWords 0x20000000 2, .writeWords 0x20000000 [1],
      .talk Opcode.setBreakpoints (wordBytes [0x2200, 0x2300]), .writeWords 0x20000000 [3],
      .talk Opcode.resume [], .readWords 0x20000000 2] := by
  intro d r
  let table : BreakpointTable := ⟨⟨0, 0, []⟩, Program.sample.breakpoints.tail⟩
  have htable : BreakpointTable.ofList? Program.sample.breakpoints = some table := rfl
  have hentry : table.entry? = some ⟨1, 0x2100, [3, 4]⟩ := by decide +kernel
  have hstrategy : (Controller.new .standard).config.strategy ≠ .poll := by decide
  have hevents : d.capabilities.events := by decide
  have hfailures : d.failures = [] := by decide
  have hhalts : d.halts = 0x2100 :: [0x2300] := rfl
  have hlength : [StepCommand.stepInto].length = [(0x2300 : UInt32)].length := rfl
  have hfits : d.globalsAddress.toNat + 4 * d.globalCount.toNat ≤ UInt32.size := by decide +kernel
  obtain ⟨hresult, hlog⟩ :=
    run_debug htable hentry hstrategy hevents hfailures hhalts hlength hfits
  have hids : breakpointIds r = some ([0x2100, 0x2300].map fun pc =>
      (table.resolve (Procedure.place (Procedure.standing Program.sample.procedures) pc)).id) := by
    simp only [breakpointIds, r, hresult, List.map_map]
    rfl
  refine ⟨hids.trans (by decide +kernel), ?_⟩
  simp only [r, hlog]
  decide +kernel

/-- Of two procedures with one index only the last counts, even if it has no landing pad. -/
theorem run_debug_twice :
    let program : Program := { Program.sample with
      procedures := Program.sample.procedures ++ [⟨1, "step", [], [], none, none⟩] }
    let d := SimulatedDevice.sample [0x2300]
    let r := run Controller.notify
      (Controller.debug d.capabilities (.ok program) []) (.new .standard) d
    breakpointIds r = some [4] ∧
      (BreakpointTable.ofList? program.breakpoints).map (fun table =>
        (table.resolve (Procedure.place program.procedures 0x2300)).id) = some 3 := by
  intro program d r
  exact ⟨by decide +kernel, by decide +kernel⟩

end BoardDebug
