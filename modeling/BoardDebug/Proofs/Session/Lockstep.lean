import BoardDebug.Proofs.Call.Routine
import BoardDebug.Proofs.Session.World

namespace BoardDebug

open Call Routine

/-- What was done on a device, without the questions whether it is halted. -/
def orders (log : List Operation) : List Operation :=
  log.filter (· ≠ .queryHalt)

theorem orders_append (log later : List Operation) :
    orders (log ++ later) = orders log ++ orders later :=
  List.filter_append ..

namespace SimulatedDevice

/-- A device that tells of its halts, and one that has to be asked but is the same otherwise. -/
inductive Like (d : SimulatedDevice) : SimulatedDevice → Prop where
  | mk (log : List Operation) : d.capabilities.events = true → .queryHalt ∉ d.failures →
      orders log = orders d.log → Like d { d with capabilities := ⟨false, true⟩, log }

variable {d d' : SimulatedDevice} {request : Request}

theorem Like.capabilities (h : d.Like d') :
    d.capabilities.events = true ∧ d'.capabilities = ⟨false, true⟩ := by
  obtain ⟨log, hevents, -, -⟩ := h
  exact ⟨hevents, rfl⟩

theorem Like.answer (h : d.Like d') (hrequest : request ≠ .queryHalt) :
    (d.answer request).answer = (d'.answer request).answer ∧
      (d.answer request).link.Like (d'.answer request).link ∧
      (d'.answer request).events = [] := by
  obtain ⟨log, hevents, hfailures, hlog⟩ := h
  cases request with
  | queryHalt => exact absurd rfl hrequest
  | readWords address count => exact ⟨rfl, .mk _ hevents hfailures hlog, rfl⟩
  | writeWords address words => exact ⟨rfl, .mk _ hevents hfailures hlog, rfl⟩
  | flash image =>
    refine ⟨rfl, .mk _ hevents hfailures hlog, ?_⟩
    simp only [SimulatedDevice.answer, run, pausedEvents]
    cases d.halts.head? <;> rfl
  | talk opcode payload =>
    unfold SimulatedDevice.answer
    dsimp only
    split
    case isTrue => exact ⟨rfl, .mk _ hevents hfailures hlog, rfl⟩
    split
    case isTrue =>
      cases readWords payload with
      | ok addresses => exact ⟨rfl, .mk _ hevents hfailures hlog, rfl⟩
      | error what => exact ⟨rfl, .mk _ hevents hfailures hlog, rfl⟩
    split
    case isTrue =>
      refine ⟨rfl, .mk _ hevents hfailures hlog, ?_⟩
      simp only [run, pausedEvents]
      cases d.halts.head? <;> rfl
    case isFalse => exact ⟨rfl, .mk _ hevents hfailures hlog, rfl⟩

/-- The two devices answer the same, but only one of them tells of its halts. -/
theorem Like.serve (h : d.Like d') (hrequest : request ≠ .queryHalt) :
    (d.serve request).answer = (d'.serve request).answer ∧
      (d.serve request).link.Like (d'.serve request).link ∧
      (d'.serve request).events = [] := by
  have hnote : (d.note request).Like (d'.note request) := by
    obtain ⟨log, hevents, hfailures, hlog⟩ := h
    refine .mk _ hevents hfailures ?_
    rw [orders_append, hlog, ← orders_append]
    rfl
  have hrefuses (d : SimulatedDevice) : d.refuses request = false := by
    simp [refuses, hrequest]
  have hfails : request.kind ∈ d.failures ↔ request.kind ∈ d'.failures := by
    obtain ⟨log, -, -, -⟩ := h
    exact .rfl
  unfold SimulatedDevice.serve
  simp only [hrefuses, Bool.false_eq_true, if_false, ← hfails]
  split
  case isTrue =>
    refine ⟨rfl, ?_, rfl⟩
    obtain ⟨log, hevents, hfailures, hlog⟩ := h
    refine .mk _ hevents (fun hmem => hfailures (List.mem_of_mem_erase hmem)) ?_
    rw [orders_append, hlog, ← orders_append]
  case isFalse => exact hnote.answer hrequest

end SimulatedDevice

namespace Session

/-- A session, and one that is the same but for what it hears halts by. -/
inductive Like (s : Session) : Session → Prop where
  | mk (latch : Latch) (wait : Option Nat) (observer : Option Observer) :
      Like s { s with latch, wait, observer }

variable {s s' : Session} {d d' : SimulatedDevice} {listening listening' : Bool}

theorem Like.drift {s'' : Session} (h : s.Like s') (hdrift : s.Drift s'') : s''.Like s' := by
  obtain ⟨latch, wait, observer⟩ := h
  obtain ⟨latch', observer', -, -⟩ := hdrift
  exact .mk _ _ _

/-- Sessions stay alike when the same part of them is set. -/
theorem Like.set {f f' : Session → Session} (h : s.Like s')
    (hf : ∀ s latch wait observer, (f s).Like (f' { s with latch, wait, observer })) :
    (f s).Like (f' s') := by
  obtain ⟨latch, wait, observer⟩ := h
  exact hf s latch wait observer

theorem Like.heard (h : s.Like s') (events : List Event) :
    (events.foldl (fun s e => notify listening e s) s).Like s' := by
  induction events generalizing s with
  | nil => exact h
  | cons event events ih => exact ih (h.drift (s.drift_notify listening event))

/-- Sessions that are alike, on devices that are alike. -/
def Coupled (p q : Session × SimulatedDevice) : Prop :=
  p.1.Like q.1 ∧ p.2.Like q.2

/-- Two routines that do the same on sessions and devices that are alike. -/
abbrev Twins {α : Type} (listening listening' : Bool) (r r' : Routine Session α) : Prop :=
  Alike (notify listening) (notify listening') Coupled r r'

theorem twins_ask {request : Request} (hrequest : request ≠ .queryHalt) :
    Twins listening listening' (ask request) (ask request) := by
  refine alike_ask fun s d s' d' ⟨hs, hd⟩ => ?_
  obtain ⟨hanswer, hlinks, hevents⟩ := hd.serve hrequest
  refine ⟨hanswer, ?_, hlinks⟩
  have hnone : (Link.serve d' request).events = [] := hevents
  rw [hnone]
  exact hs.heard _

theorem twins_modify {f f' : Session → Session} (h : ∀ s s', s.Like s' → (f s).Like (f' s')) :
    Twins listening listening' (modify f) (modify f') :=
  alike_modify fun _ _ _ _ hcoupled => ⟨h _ _ hcoupled.1, hcoupled.2⟩

theorem twins_set {f f' : Session → Session}
    (hf : ∀ s latch wait observer, (f s).Like (f' { s with latch, wait, observer })) :
    Twins listening listening' (modify f) (modify f') :=
  twins_modify fun _ _ h => h.set hf

theorem twins_get {α : Type} {f f' : Session → Routine Session α}
    (h : ∀ s s', s.Like s' → Twins listening listening' (f s) (f' s')) :
    Twins listening listening' (get >>= f) (get >>= f') :=
  alike_get fun _ _ _ _ hcoupled => h _ _ hcoupled.1

theorem twins_expectPhase (phase : Phase) :
    Twins listening listening' (expectPhase phase) (expectPhase phase) := by
  refine twins_get ?_
  rintro s _ ⟨latch, wait, observer⟩
  dsimp only
  split
  · exact alike_pure _
  · exact alike_fail _

theorem twins_fetchArea : Twins listening listening' fetchArea fetchArea := by
  have hfetch : Twins listening listening' GlobalsArea.fetch GlobalsArea.fetch := by
    refine alike_bind (twins_ask nofun) fun reply => ?_
    cases GlobalsArea.ofReply reply with
    | ok area => exact alike_pure _
    | error what => exact alike_fail _
  refine twins_get ?_
  rintro s _ ⟨latch, wait, observer⟩
  cases harea : s.area with
  | some area => exact alike_pure _
  | none =>
    refine alike_bind hfetch fun area => ?_
    exact alike_bind (twins_set fun _ _ _ _ => .mk _ _ _) fun _ => alike_pure _

theorem twins_writeStatus (status : DebugStatus) :
    Twins listening listening' (writeStatus status) (writeStatus status) := by
  refine twins_get ?_
  rintro s _ ⟨latch, wait, observer⟩
  dsimp only
  split
  · exact alike_pure _
  · refine alike_bind twins_fetchArea fun area => alike_bind (twins_ask nofun) fun _ => ?_
    exact alike_bind (twins_set fun _ _ _ _ => .mk _ _ _) fun _ => alike_pure _

theorem Like.dropWait (h : s.Like s') : s.dropWait.Like s'.dropWait := by
  obtain ⟨latch, wait, observer⟩ := h
  rw [dropWait_eq s, dropWait_eq { s with latch, wait, observer }]
  exact .mk _ _ _

theorem arm_eq (s : Session) : s.arm = { s with latch := s.arm.latch, wait := s.arm.wait } := by
  let latched : Session := { s with latch := s.latch.arm.2 }
  have harm : s.arm = { latched.dropWait with wait := some s.latch.arm.1 } := rfl
  rw [harm, latched.dropWait_eq]

theorem Like.arm (h : s.Like s') : s.arm.Like s'.arm := by
  obtain ⟨latch, wait, observer⟩ := h
  rw [arm_eq s, arm_eq { s with latch, wait, observer }]
  exact .mk _ _ _

theorem twins_flashAndArm : Twins listening listening' flashAndArm flashAndArm := by
  refine twins_get ?_
  rintro s _ ⟨latch, wait, observer⟩
  dsimp only
  cases s.table.entry? with
  | none => exact alike_fail _
  | some entry =>
    refine alike_bind (twins_set fun _ _ _ _ => .mk _ _ _) fun _ => ?_
    refine alike_bind (twins_ask (by simp [Request.setBreakpoints])) fun _ => ?_
    let flashing (s : Session) : Session := { s with phase := .flashing }
    have harm (s s' : Session) (h : s.Like s') : (flashing s.arm).Like (flashing s'.arm) :=
      h.arm.set fun _ _ _ _ => .mk _ _ _
    refine alike_bind (twins_modify harm) fun _ => twins_get ?_
    rintro s _ ⟨latch, wait, observer⟩
    exact alike_bind (twins_ask (by simp)) fun _ => twins_set fun _ _ _ _ => .mk _ _ _

theorem twins_take (area : GlobalsArea) (index : ProcedureIndex) (pc : Option UInt32) :
    Twins listening listening' (Snapshot.take area index pc) (Snapshot.take area index pc) := by
  refine alike_bind (twins_ask nofun) fun words => ?_
  split
  · exact alike_pure _
  · exact alike_fail _

theorem twins_halted (pc : UInt32) : Twins listening listening' (halted pc) (halted pc) := by
  refine alike_bind twins_fetchArea fun area => twins_get ?_
  rintro s _ ⟨latch, wait, observer⟩
  refine alike_bind (twins_take _ _ _) fun snapshot => ?_
  refine alike_bind (twins_set fun _ _ _ _ => .mk _ _ _) fun _ => ?_
  dsimp only
  split
  · refine alike_bind (twins_writeStatus _) fun _ => ?_
    exact alike_bind (twins_set fun _ _ _ _ => .mk _ _ _) fun _ => alike_pure _
  · exact alike_bind (twins_set fun _ _ _ _ => .mk _ _ _) fun _ => alike_pure _

theorem twins_step (into : Bool) : Twins listening listening' (step into) (step into) := by
  refine alike_bind (twins_expectPhase _) fun _ => twins_get ?_
  rintro s _ ⟨latch, wait, observer⟩
  dsimp only
  cases s.current with
  | none => exact alike_fail _
  | some current =>
    refine alike_bind (twins_set fun _ _ _ _ => .mk _ _ _) fun _ => ?_
    refine alike_bind (twins_ask (by simp [Request.setBreakpoints])) fun _ => ?_
    refine alike_bind (twins_writeStatus _) fun _ => ?_
    refine alike_bind (twins_modify fun _ _ h => h.arm) fun _ => ?_
    refine alike_bind (twins_ask (by simp [Request.resume])) fun _ => ?_
    exact twins_set fun _ _ _ _ => .mk _ _ _

end Session

end BoardDebug
