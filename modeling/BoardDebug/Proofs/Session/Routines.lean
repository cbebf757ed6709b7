import BoardDebug.Proofs.Device.Requests
import BoardDebug.Proofs.Halt.Latch
import BoardDebug.Session

namespace BoardDebug

/-- The failures that were set up in a device, as the errors that they become. -/
def SimulatedDevice.Breaks (d : SimulatedDevice) (e : SessionError) : Prop :=
  ∃ kind ∈ d.failures, e = .link (.injected kind)

/-- Asks for the globals area unless it is known. -/
def SimulatedDevice.inform (d : SimulatedDevice) : Option GlobalsArea → SimulatedDevice
  | some _ => d
  | none => d.note (.talk Opcode.getGlobals [])

/-- The status that a step asks for. -/
def stepStatus (into : Bool) : DebugStatus :=
  if into then .singleStep else .breakpoints

namespace Session

/-- What an event from the device does to the session in place. -/
def notify (listening : Bool) (event : Event) (s : Session) : Session :=
  if listening ∧ event.code = Opcode.paused then
    match haltPlace event.payload with
    | .ok pc => s.fulfill pc
    | .error _ => s
  else s

/-- What a session hears when the device runs up to its next halt. -/
def hear (listening : Bool) (d : SimulatedDevice) (s : Session) : Session :=
  { s with
    latch :=
      match d.halts.head? with
      | some pc => if d.capabilities.events ∧ listening then (s.latch.fulfill pc).2 else s.latch
      | none => s.latch }

/-- The globals area, which the device is asked for if it is not known. -/
def areaOn (s : Session) (d : SimulatedDevice) : GlobalsArea :=
  s.area.getD d.area

/-- A session after its status was written. -/
def mark (s : Session) (status : DebugStatus) (d : SimulatedDevice) : Session :=
  if s.status = some status then s
  else { s with area := some (s.areaOn d), status := some status }

/-- A session that knows what explains a halt at `pc`. -/
def explain (s : Session) (pc : UInt32) (d : SimulatedDevice) : Session :=
  { s with
    area := some (s.areaOn d)
    pending := []
    current := some (s.table.resolve (s.place pc)) }

/-- A session that has told of a halt at `pc`. -/
def pause (s : Session) (pc : UInt32) (d : SimulatedDevice) : Session :=
  { (if s.hasHalted then s.explain pc d else (s.explain pc d).mark .breakpoints d) with
    hasHalted := true
    phase := .paused }

/-- A session whose device was set going, heard up to the next halt. -/
def go (s : Session) (listening : Bool) (d : SimulatedDevice) : Session :=
  { (s.arm.hear listening d).setRunning with phase := .armed }

/-- A session that goes on from `current`. -/
def proceed (s : Session) (listening into : Bool) (current : Breakpoint) (d : SimulatedDevice) :
    Session :=
  let s := { s with phase := .resuming, pending := s.table.successorAddresses current }
  (s.mark (stepStatus into) d).go listening d

end Session

namespace SimulatedDevice

/-- Takes the status of a session, unless it was written before. -/
def mark (d : SimulatedDevice) (s : Session) (status : DebugStatus) : SimulatedDevice :=
  if s.status = some status then d
  else (d.inform s.area).store (s.areaOn d).address [status.word]

/-- Tells a session of a halt, and takes its first status. -/
def tell (d : SimulatedDevice) (s : Session) : SimulatedDevice :=
  let asked := (d.inform s.area).note (.readWords (s.areaOn d).address (s.areaOn d).count)
  if s.hasHalted then asked else asked.mark { s with area := some (s.areaOn d) } .breakpoints

/-- Is set going by a session that goes on from `current`. -/
def proceed (d : SimulatedDevice) (s : Session) (into : Bool) (current : Breakpoint) :
    SimulatedDevice :=
  (((d.arm (s.table.successorAddresses current)).mark s (stepStatus into)).note .resume).run

end SimulatedDevice

namespace Session

open Call.Run Routine

variable {s : Session} {d : SimulatedDevice} {listening : Bool}

theorem foldl_pausedEvents (s : Session) (d : SimulatedDevice) (listening : Bool) :
    (d.pausedEvents d.halts.head?).foldl (fun s e => notify listening e s) s =
      s.hear listening d := by
  unfold SimulatedDevice.pausedEvents hear
  cases d.halts.head? with
  | none => rfl
  | some pc =>
    have hplace : haltPlace (wordBytes [pc]) = .ok pc := wordAt_zero_wordBytes pc []
    by_cases he : d.capabilities.events <;> cases listening <;>
      simp [he, notify, hplace, fulfill]

theorem ends_fetchArea (s : Session) (d : SimulatedDevice) :
    (run (notify listening) fetchArea s d).Ends
      (fun area s' d' =>
        area = s.areaOn d ∧ s' = { s with area := some area } ∧ d' = d.inform s.area)
      (fun e _ d' => d.Breaks e ∧ d.log.length < d'.log.length) := by
  unfold fetchArea areaOn
  rw [ends_bind, run_get, ends_ok]
  cases harea : s.area with
  | some area =>
    rw [run_pure, ends_ok]
    exact ⟨rfl, by rw [← harea], rfl⟩
  | none =>
    rw [ends_bind, GlobalsArea.ends_fetch]
    split
    · exact ⟨⟨_, ‹_›, rfl⟩, by simp [SimulatedDevice.fail, SimulatedDevice.note]⟩
    · rw [ends_bind, run_modify, ends_ok, run_pure, ends_ok]
      exact ⟨rfl, rfl, rfl⟩

theorem breaks_of_inform {e : SessionError} {area : Option GlobalsArea}
    (h : (d.inform area).Breaks e) : d.Breaks e := by
  cases area <;> exact h

theorem length_log_inform (d : SimulatedDevice) (area : Option GlobalsArea) :
    d.log.length ≤ (d.inform area).log.length := by
  cases area with
  | some area => exact Nat.le_refl _
  | none => simp [SimulatedDevice.inform, SimulatedDevice.note]

@[simp] theorem memory_inform (d : SimulatedDevice) (area : Option GlobalsArea) :
    (d.inform area).memory = d.memory := by
  cases area <;> rfl

theorem ends_writeStatus (s : Session) (d : SimulatedDevice) (status : DebugStatus) :
    (run (notify listening) (writeStatus status) s d).Ends
      (fun written s' d' =>
        written = decide (s.status ≠ some status) ∧ s' = s.mark status d ∧ d' = d.mark s status)
      (fun e _ d' => s.status ≠ some status ∧ d.Breaks e ∧ d.log.length < d'.log.length) := by
  unfold writeStatus mark SimulatedDevice.mark
  rw [ends_bind, run_get, ends_ok]
  split
  case isTrue h => simp [h]
  case isFalse h =>
    refine ends_bind.2 ((ends_fetchArea s d).mono ?_ fun e _ _ hbad => ⟨h, hbad⟩)
    rintro area s' d' ⟨rfl, rfl, rfl⟩
    rw [ends_bind, ends_writeWords]
    split
    case isTrue hw =>
      have hbreaks : (d.inform s.area).Breaks (.link (.injected .writeWords)) := ⟨_, hw, rfl⟩
      have hlog : (d.inform s.area).log.length < ((d.inform s.area).fail
          (.writeWords (s.areaOn d).address [status.word])).log.length := by
        simp [SimulatedDevice.fail, SimulatedDevice.note]
      exact ⟨h, breaks_of_inform hbreaks, Nat.lt_of_le_of_lt (length_log_inform d s.area) hlog⟩
    case isFalse =>
      rw [ends_bind, run_modify, ends_ok, run_pure, ends_ok]
      exact ⟨by simp [h], rfl, rfl⟩

@[simp] theorem failures_mark (d : SimulatedDevice) (s : Session) (status : DebugStatus) :
    (d.mark s status).failures = d.failures := by
  unfold SimulatedDevice.mark
  cases s.area <;> split <;> rfl

theorem hear_mark (s s' : Session) (d : SimulatedDevice) (status : DebugStatus) :
    s.hear listening (d.mark s' status) = s.hear listening d := by
  unfold SimulatedDevice.mark
  cases s'.area <;> split <;> rfl

@[simp] theorem program_arm (s : Session) : s.arm.program = s.program := by
  unfold arm dropWait
  cases s.wait <;> rfl

theorem ends_flashAndArm (s : Session) (d : SimulatedDevice) :
    (run (notify listening) flashAndArm s d).Ends
      (fun _ s' d' => ∃ entry, s.table.entry? = some entry ∧
        s' = ({ s with pending := [entry.address] } : Session).go listening d ∧
        d' = (d.arm [entry.address]).boot s.program.image)
      (fun e _ d' => e = .noEntryBreakpoint ∧ s.table.entry? = none ∧ d' = d ∨ d.Breaks e) := by
  unfold flashAndArm
  rw [ends_bind, run_get, ends_ok]
  cases hentry : s.table.entry? with
  | none =>
    rw [run_fail, ends_error]
    exact .inl ⟨rfl, rfl, rfl⟩
  | some entry =>
    rw [ends_bind, run_modify, ends_ok, ends_bind, ends_setBreakpoints]
    split
    case isTrue h => exact .inr ⟨_, h, rfl⟩
    case isFalse =>
      rw [ends_bind, run_modify, ends_ok, ends_bind, run_get, ends_ok, ends_bind, ends_flash]
      split
      case isTrue h => exact .inr ⟨_, h, rfl⟩
      case isFalse =>
        rw [run_modify, ends_ok, foldl_pausedEvents]
        exact ⟨entry, rfl, rfl, by simp⟩

theorem ends_halted (s : Session) (d : SimulatedDevice) (pc : UInt32) :
    (run (notify listening) (halted pc) s d).Ends
      (fun message s' d' =>
        message = .new (s.table.resolve (s.place pc)).id
          (.ofArea (d.memory.readWords (s.areaOn d).address (s.areaOn d).count.toNat) s.index) ∧
        s' = s.pause pc d ∧ d' = d.tell s)
      (fun e _ _ => d.Breaks e) := by
  unfold halted
  refine ends_bind.2 ((ends_fetchArea s d).mono ?_ fun e _ _ hbad => hbad.1)
  rintro area s' d' ⟨rfl, rfl, rfl⟩
  rw [ends_bind, run_get, ends_ok, ends_bind, Snapshot.ends_take]
  split
  case isTrue h => exact breaks_of_inform ⟨_, h, rfl⟩
  case isFalse =>
    rw [ends_bind, run_modify, ends_ok]
    -- From here on the session knows the breakpoint, and only its status is left to be written.
    change (run _ _ (s.explain pc d) _).Ends _ _
    by_cases hhalted : s.hasHalted
    · simp only [hhalted, Bool.not_true, Bool.false_eq_true, if_false]
      rw [ends_bind, run_modify, ends_ok, run_pure, ends_ok]
      refine ⟨by rw [memory_inform]; rfl, ?_, ?_⟩
      · rw [pause, if_pos hhalted]
      · rw [SimulatedDevice.tell, if_pos hhalted]
    · simp only [hhalted, Bool.not_false, if_true]
      refine ends_bind.2 ((ends_writeStatus _ _ _).mono ?_ ?_)
      · rintro _ s' d' ⟨-, rfl, rfl⟩
        rw [ends_bind, run_modify, ends_ok, run_pure, ends_ok]
        refine ⟨by rw [memory_inform]; rfl, ?_, ?_⟩
        · rw [pause, if_neg hhalted]
          rfl
        · rw [SimulatedDevice.tell, if_neg hhalted]
          rfl
      · exact fun e _ _ hbad => breaks_of_inform hbad.2.1

theorem run_expectPhase_of_ne {expected : Phase} (h : s.phase ≠ expected) :
    run (notify listening) (expectPhase expected) s d =
      ⟨some (.error (.wrongPhase expected s.phase)), s, d⟩ := by
  unfold expectPhase
  rw [run_bind, run_get]
  simp only [next, andThen, if_neg h, run_fail]

theorem run_expectPhase_of_eq {expected : Phase} (h : s.phase = expected) :
    run (notify listening) (expectPhase expected) s d = ⟨some (.ok ()), s, d⟩ := by
  unfold expectPhase
  rw [run_bind, run_get]
  simp only [next, andThen, if_pos h, run_pure]

/-- A refused step leaves everything as it was. -/
theorem run_step_of_ne (h : s.phase ≠ .paused) (into : Bool) :
    run (notify listening) (step into) s d =
      ⟨some (.error (.wrongPhase .paused s.phase)), s, d⟩ := by
  unfold step
  rw [run_bind, run_expectPhase_of_ne h]
  rfl

theorem run_step_of_none (h : s.phase = .paused) (hcurrent : s.current = none) (into : Bool) :
    run (notify listening) (step into) s d =
      ⟨some (.error (.wrongPhase .paused s.phase)), s, d⟩ := by
  unfold step
  rw [run_bind, run_expectPhase_of_eq h]
  simp only [next, andThen]
  rw [run_bind, run_get]
  simp only [next, andThen, hcurrent, run_fail]

theorem ends_step (h : s.phase = .paused) {current : Breakpoint}
    (hcurrent : s.current = some current) (into : Bool) :
    (run (notify listening) (step into) s d).Ends
      (fun _ s' d' => s' = s.proceed listening into current d ∧ d' = d.proceed s into current)
      (fun e _ _ => d.Breaks e) := by
  unfold step
  rw [ends_bind, run_expectPhase_of_eq h, ends_ok, ends_bind, run_get, ends_ok]
  simp only [hcurrent]
  rw [ends_bind, run_modify, ends_ok, ends_bind, ends_setBreakpoints]
  split
  case isTrue hb => exact ⟨_, hb, rfl⟩
  case isFalse =>
    refine ends_bind.2 ((ends_writeStatus _ _ (stepStatus into)).mono ?_ fun e _ _ h => h.2.1)
    rintro _ s' d' ⟨-, rfl, rfl⟩
    rw [ends_bind, run_modify, ends_ok, ends_bind, ends_resume]
    split
    case isTrue hr =>
      rw [failures_mark] at hr
      exact ⟨_, hr, rfl⟩
    case isFalse =>
      rw [run_modify, ends_ok, foldl_pausedEvents]
      refine ⟨?_, rfl⟩
      rw [hear_mark]
      rfl

/-! None of the routines waits, except for the one that waits for a halt. -/

theorem isDirect_fetchArea : fetchArea.IsDirect := by
  unfold fetchArea
  refine isDirect_bind isDirect_get fun s => ?_
  cases s.area with
  | some area => exact isDirect_pure _
  | none =>
    refine isDirect_bind (isDirect_bind (isDirect_ask _) fun reply => ?_) fun _ =>
      isDirect_bind (isDirect_modify _) fun _ => isDirect_pure _
    cases GlobalsArea.ofReply reply with
    | ok area => exact isDirect_pure _
    | error what => exact isDirect_fail _

theorem isDirect_writeStatus (status : DebugStatus) : (writeStatus status).IsDirect := by
  unfold writeStatus
  refine isDirect_bind isDirect_get fun s => ?_
  split
  · exact isDirect_pure _
  · exact isDirect_bind isDirect_fetchArea fun _ => isDirect_bind (isDirect_ask _) fun _ =>
      isDirect_bind (isDirect_modify _) fun _ => isDirect_pure _

theorem isDirect_flashAndArm : flashAndArm.IsDirect := by
  unfold flashAndArm
  refine isDirect_bind isDirect_get fun s => ?_
  cases s.table.entry? with
  | none => exact isDirect_fail _
  | some entry =>
    exact isDirect_bind (isDirect_modify _) fun _ => isDirect_bind (isDirect_ask _) fun _ =>
      isDirect_bind (isDirect_modify _) fun _ => isDirect_bind isDirect_get fun _ =>
      isDirect_bind (isDirect_ask _) fun _ => isDirect_modify _

theorem isDirect_halted (pc : UInt32) : (halted pc).IsDirect := by
  unfold halted
  refine isDirect_bind isDirect_fetchArea fun area => isDirect_bind isDirect_get fun s =>
    isDirect_bind (isDirect_bind (isDirect_ask _) fun words => ?_) fun _ =>
    isDirect_bind (isDirect_modify _) fun _ => ?_
  · split
    · exact isDirect_pure _
    · exact isDirect_fail _
  · split
    · exact isDirect_bind (isDirect_writeStatus _) fun _ => isDirect_bind (isDirect_modify _)
        fun _ => isDirect_pure _
    · exact isDirect_bind (isDirect_modify _) fun _ => isDirect_pure _

theorem isDirect_expectPhase (phase : Phase) : (expectPhase phase).IsDirect := by
  unfold expectPhase
  refine isDirect_bind isDirect_get fun s => ?_
  split
  · exact isDirect_pure _
  · exact isDirect_fail _

theorem isDirect_step (into : Bool) : (step into).IsDirect := by
  unfold step
  refine isDirect_bind (isDirect_expectPhase _) fun _ => isDirect_bind isDirect_get fun s => ?_
  cases s.current with
  | none => exact isDirect_fail _
  | some current =>
    exact isDirect_bind (isDirect_modify _) fun _ => isDirect_bind (isDirect_ask _) fun _ =>
      isDirect_bind (isDirect_writeStatus _) fun _ => isDirect_bind (isDirect_modify _) fun _ =>
      isDirect_bind (isDirect_ask _) fun _ => isDirect_modify _

end Session

end BoardDebug
