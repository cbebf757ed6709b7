import BoardDebug.Proofs.Breakpoint
import BoardDebug.Proofs.Session.Routines

namespace BoardDebug

namespace Session

/-- A session whose device runs. A status was written if a halt was dealt with before. -/
structure Running (s : Session) : Prop where
  serves : ∃ wait, s.wait = some wait ∧ s.latch.Serves wait
  status : s.hasHalted = true → s.status.isSome

/-- A session whose device is halted. -/
structure Halted (s : Session) : Prop where
  wait : s.wait = none
  unarmed : s.latch.isArmed = false
  pending : s.pending = []
  current : ∃ b ∈ s.table.toList, s.current = some b
  area : s.area.isSome
  status : s.status.isSome

/-- A session that failed. -/
structure Closed (s : Session) : Prop where
  wait : s.wait = none
  unarmed : s.latch.isArmed = false
  observer : s.observer = none

/-- A session on a device while no call is going on. -/
inductive AtRest (s : Session) (d : SimulatedDevice) : Prop where
  | armed (phase : s.phase = .armed) (running : s.Running) (pending : s.pending = d.armed)
  | paused (phase : s.phase = .paused) (halted : s.Halted)
  | terminated (phase : s.phase = .terminated) (closed : s.Closed)

/-- What becomes of a session without a call: its latch may fire, and its observer goes on. -/
inductive Drift (s : Session) : Session → Prop where
  | mk (latch : Latch) (observer : Option Observer) :
      (latch = s.latch ∨ ∃ outcome ≠ .superseded, latch = (s.latch.complete outcome).2) →
      (s.observer = none → observer = none) →
      Drift s { s with latch, observer }

/-- What happens to a session and its device without a call. Only an observer makes requests. -/
structure Stirs (p q : Session × SimulatedDevice) : Prop where
  drift : p.1.Drift q.1
  armed : q.2.armed = p.2.armed
  memory : q.2.memory = p.2.memory
  silent : p.1.observer = none → q.2.log = p.2.log
  cell : q.2.globalsAddress = p.2.globalsAddress

/-- A call left a session at rest, or it failed and was not turned away. -/
def Settles {α : Type} (r : Call.Run Session SimulatedDevice (Except SessionError α)) : Prop :=
  match r.result with
  | some (.error e) => e.isHarmless = false ∧ e ≠ .superseded
  | _ => r.state.AtRest r.link

/-- A call was turned away, since it asks for a session in another phase. -/
def Refuses {α : Type} (s : Session) (d : SimulatedDevice)
    (r : Call.Run Session SimulatedDevice (Except SessionError α)) : Prop :=
  ∃ expected, s.phase ≠ expected ∧ r = ⟨some (.error (.wrongPhase expected s.phase)), s, d⟩

open Call Routine

variable {s s' : Session} {d d' : SimulatedDevice} {listening : Bool}

/-- To give up a wait changes nothing but the latch. -/
theorem dropWait_eq (s : Session) :
    s.dropWait = { s with wait := none, latch := s.dropWait.latch } := by
  unfold dropWait
  split
  case h_1 => rfl
  case h_2 hwait => rw [← hwait]

@[simp] theorem isArmed_dropWait (s : Session) : s.dropWait.latch.isArmed = s.latch.isArmed := by
  unfold dropWait
  split <;> rfl

theorem wait_dropWait (s : Session) : s.dropWait.wait = none := by
  rw [dropWait_eq]

theorem hasHalted_dropWait (s : Session) : s.dropWait.hasHalted = s.hasHalted := by
  rw [dropWait_eq]

theorem status_dropWait (s : Session) : s.dropWait.status = s.status := by
  rw [dropWait_eq]

theorem closed_terminate (s : Session) : s.terminate.Closed :=
  ⟨wait_dropWait s, by simp [terminate, Latch.isArmed], rfl⟩

theorem AtRest.running (h : s.AtRest d) (hphase : s.phase = .armed) :
    s.Running ∧ s.pending = d.armed := by
  cases h with
  | armed _ running pending => exact ⟨running, pending⟩
  | paused phase => simp [hphase] at phase
  | terminated phase => simp [hphase] at phase

theorem AtRest.halted (h : s.AtRest d) (hphase : s.phase = .paused) : s.Halted := by
  cases h with
  | armed phase => simp [hphase] at phase
  | paused _ halted => exact halted
  | terminated phase => simp [hphase] at phase

theorem AtRest.closed (h : s.AtRest d) (hphase : s.phase = .terminated) : s.Closed := by
  cases h with
  | armed phase => simp [hphase] at phase
  | paused phase => simp [hphase] at phase
  | terminated _ closed => exact closed

theorem Drift.running (h : s.Drift s') (hs : s.Running) : s'.Running := by
  obtain ⟨latch, observer, hlatch, -⟩ := h
  obtain ⟨⟨wait, hwait, hserves⟩, hstatus⟩ := hs
  refine ⟨⟨wait, hwait, ?_⟩, hstatus⟩
  obtain rfl | ⟨outcome, houtcome, rfl⟩ := hlatch
  · exact hserves
  · exact hserves.complete houtcome

theorem Drift.unarmed (h : s.Drift s') (hs : s.latch.isArmed = false) :
    s'.latch.isArmed = false := by
  obtain ⟨latch, observer, hlatch, -⟩ := h
  obtain rfl | ⟨outcome, -, rfl⟩ := hlatch
  · exact hs
  · simp [Latch.isArmed]

theorem Stirs.phase (h : Stirs (s, d) (s', d')) : s'.phase = s.phase := by
  obtain ⟨⟨latch, observer, -, -⟩, -, -, -⟩ := h
  rfl

theorem Stirs.atRest (h : Stirs (s, d) (s', d')) (hs : s.AtRest d) : s'.AtRest d' := by
  have hphase := h.phase
  have hunarmed : s.latch.isArmed = false → s'.latch.isArmed = false := h.drift.unarmed
  cases hs with
  | armed phase running pending =>
    have hpending : s'.pending = s.pending := by
      obtain ⟨⟨latch, observer, -, -⟩, -, -, -⟩ := h
      rfl
    exact .armed (hphase.trans phase) (h.drift.running running)
      ((hpending.trans pending).trans h.armed.symm)
  | paused phase halted =>
    refine .paused (hphase.trans phase) ?_
    obtain ⟨⟨latch, observer, -, -⟩, -, -, -⟩ := h
    exact ⟨halted.wait, hunarmed halted.unarmed, halted.pending, halted.current, halted.area,
      halted.status⟩
  | terminated phase closed =>
    refine .terminated (hphase.trans phase) ?_
    obtain ⟨⟨latch, observer, -, hobserver⟩, -, -, -⟩ := h
    exact ⟨closed.wait, hunarmed closed.unarmed, hobserver closed.observer⟩

theorem AtRest.after_stirs (hs : s.AtRest d)
    (h : Relation.ReflTransGen Stirs (s, d) (s', d')) : s'.phase = s.phase ∧ s'.AtRest d' := by
  generalize hq : (s', d') = q at h
  induction h generalizing s' d' with
  | refl =>
    cases hq
    exact ⟨rfl, hs⟩
  | @tail p q _ hpq ih =>
    subst hq
    obtain ⟨hphase, hp⟩ := ih rfl
    exact ⟨hpq.phase.trans hphase, hpq.atRest hp⟩

theorem status_mark (s : Session) (status : DebugStatus) (d : SimulatedDevice) :
    (s.mark status d).status = some status := by
  unfold mark
  split
  · assumption
  · rfl

@[simp] theorem wait_mark (s : Session) (status : DebugStatus) (d : SimulatedDevice) :
    (s.mark status d).wait = s.wait := by
  unfold mark
  split <;> rfl

@[simp] theorem pending_mark (s : Session) (status : DebugStatus) (d : SimulatedDevice) :
    (s.mark status d).pending = s.pending := by
  unfold mark
  split <;> rfl

theorem armed_mark (s : Session) (status : DebugStatus) (d : SimulatedDevice) :
    (d.mark s status).armed = d.armed := by
  unfold SimulatedDevice.mark
  cases s.area <;> split <;> rfl

/-- To write a status changes nothing but what is known of the device. -/
theorem AtRest.mark (h : s.AtRest d) (status : DebugStatus) :
    (s.mark status d).AtRest (d.mark s status) := by
  have hstatus := status_mark s status d
  have harmed := armed_mark s status d
  unfold Session.mark at hstatus ⊢
  split
  case isTrue hs =>
    rw [SimulatedDevice.mark, if_pos hs]
    exact h
  case isFalse hs =>
    rw [if_neg hs] at hstatus
    cases h with
    | armed phase running pending =>
      exact .armed phase ⟨running.serves, fun _ => rfl⟩ (pending.trans harmed.symm)
    | paused phase halted =>
      exact .paused phase
        ⟨halted.wait, halted.unarmed, halted.pending, halted.current, rfl, rfl⟩
    | terminated phase closed =>
      exact .terminated phase ⟨closed.wait, closed.unarmed, closed.observer⟩

theorem arm_of_none (h : s.wait = none) :
    s.arm = { s with wait := some s.latch.arm.1, latch := s.latch.arm.2 } := by
  simp [arm, dropWait, h]

theorem atRest_go (hwait : s.wait = none) (hstatus : s.hasHalted → s.status.isSome)
    (hpending : s.pending = d'.armed) : (s.go listening d).AtRest d' := by
  have hserves := Latch.serves_arm s.latch
  unfold go hear
  rw [arm_of_none hwait]
  refine .armed rfl ⟨⟨s.latch.arm.1, rfl, ?_⟩, hstatus⟩ hpending
  refine Latch.Serves.setRunning ?_
  -- A halt that is told of at once fires the latch before the session counts as armed.
  cases d.halts.head? with
  | none => exact hserves
  | some pc =>
    dsimp only
    split
    · exact hserves.complete nofun
    · exact hserves

theorem atRest_pause (hwait : s.wait = none) (hunarmed : s.latch.isArmed = false)
    (hstatus : s.hasHalted → s.status.isSome) (pc : UInt32) : (s.pause pc d).AtRest d' := by
  refine .paused rfl ?_
  have hcurrent := s.table.resolve_mem (s.place pc)
  unfold pause
  split
  case isTrue hhalted => exact ⟨hwait, hunarmed, rfl, ⟨_, hcurrent, rfl⟩, rfl, hstatus hhalted⟩
  case isFalse =>
    unfold Session.mark
    split
    case isTrue hbreak =>
      exact ⟨hwait, hunarmed, rfl, ⟨_, hcurrent, rfl⟩, rfl, by simp [hbreak]⟩
    case isFalse => exact ⟨hwait, hunarmed, rfl, ⟨_, hcurrent, rfl⟩, rfl, rfl⟩

theorem settles_of_ends {α : Type} {r : Call.Run Session SimulatedDevice (Except SessionError α)}
    (h : r.Ends (fun _ s' d' => s'.AtRest d') fun e _ _ => e.isHarmless = false ∧ e ≠ .superseded) :
    Settles r := by
  obtain ⟨result, s', d'⟩ := r
  rcases result with _ | e | a
  · exact h.elim
  · exact h
  · exact h

theorem not_harmless_of_breaks {e : SessionError} (h : d.Breaks e) :
    e.isHarmless = false ∧ e ≠ .superseded := by
  obtain ⟨kind, -, rfl⟩ := h
  exact ⟨rfl, nofun⟩

theorem settles_flashAndArm {r : Call.Run Session SimulatedDevice (Except SessionError Unit)}
    (h : Outcome (notify listening) Stirs (flashAndArm s) d r) (hwait : s.wait = none)
    (hhalted : s.hasHalted = false) : Settles r := by
  rw [h.eq_run (isDirect_flashAndArm s)]
  refine settles_of_ends ((ends_flashAndArm s d).mono ?_ ?_)
  · rintro _ s' d' ⟨entry, -, rfl, rfl⟩
    exact atRest_go hwait (by simp [hhalted]) rfl
  · rintro e s' d' (⟨rfl, -, -⟩ | hbreaks)
    · exact ⟨rfl, nofun⟩
    · exact not_harmless_of_breaks hbreaks

theorem armed_flashAndArm {r : Call.Run Session SimulatedDevice (Except SessionError Unit)}
    (h : Outcome (notify listening) Stirs (flashAndArm s) d r) (hr : r.result = some (.ok ())) :
    r.state.phase = .armed := by
  rw [h.eq_run (isDirect_flashAndArm s)] at hr ⊢
  obtain ⟨entry, -, hstate, -⟩ := (ends_flashAndArm s d).of_ok hr
  rw [Routine.run] at hstate
  rw [hstate]
  rfl

theorem settles_writeStatus {status : DebugStatus}
    {r : Call.Run Session SimulatedDevice (Except SessionError Bool)}
    (h : Outcome (notify listening) Stirs (writeStatus status s) d r) (hs : s.AtRest d) :
    Settles r := by
  rw [h.eq_run (isDirect_writeStatus status s)]
  refine settles_of_ends ((ends_writeStatus s d status).mono ?_ ?_)
  · rintro written s' d' ⟨-, rfl, rfl⟩
    exact hs.mark status
  · exact fun e _ _ hbad => not_harmless_of_breaks hbad.2.1

theorem settles_step {into : Bool}
    {r : Call.Run Session SimulatedDevice (Except SessionError Unit)}
    (h : Outcome (notify listening) Stirs (step into s) d r) (hs : s.AtRest d) :
    s.Refuses d r ∨ Settles r := by
  rw [h.eq_run (isDirect_step into s)]
  by_cases hphase : s.phase = .paused
  case neg => exact .inl ⟨.paused, hphase, run_step_of_ne hphase into⟩
  case pos =>
    have hhalted : s.Halted := hs.halted hphase
    obtain ⟨current, -, hcurrent⟩ := hhalted.current
    refine .inr (settles_of_ends ((ends_step hphase hcurrent into).mono ?_ ?_))
    · rintro _ s' d' ⟨rfl, rfl⟩
      refine atRest_go (by simpa using hhalted.wait) (fun _ => ?_) ?_
      · rw [status_mark]
        rfl
      · rw [pending_mark]
        exact (armed_mark s _ (d.arm _)).symm
    · exact fun e _ _ => not_harmless_of_breaks

section WaitForHalt

variable {r : Call.Run Session SimulatedDevice (Except SessionError HaltMessage)}

theorem refuses_waitForHalt
    (h : Outcome (notify listening) Stirs (waitForHalt s) d r) (hphase : s.phase ≠ .armed) :
    s.Refuses d r := by
  obtain ⟨mid, hmid, hr⟩ := outcome_bind h
  have hrun : (expectPhase .armed s).run (notify listening) d =
      ⟨some (.error (.wrongPhase .armed s.phase)), s, d⟩ := run_expectPhase_of_ne hphase
  rw [hmid.eq_run (isDirect_expectPhase _ s), hrun] at hr
  exact ⟨.armed, hphase, hr⟩

/-- A wait is given up, or it is over and its outcome is dealt with. -/
theorem outcome_waitForHalt
    (h : Outcome (notify listening) Stirs (waitForHalt s) d r) (hphase : s.phase = .armed) :
    ∃ s' d', Relation.ReflTransGen Stirs (s, d) (s', d') ∧
      (r = ⟨none, s', d'⟩ ∨ ∃ outcome, s'.outcome? = some outcome ∧
        r = match outcome with
          | .halted pc => Routine.run (notify listening) (halted pc) s'.dropWait d'
          | .failed e => ⟨some (.error (.link e)), s'.dropWait, d'⟩
          | .superseded => ⟨some (.error .superseded), s'.dropWait, d'⟩) := by
  obtain ⟨mid, hmid, hr⟩ := outcome_bind h
  have hrun : (expectPhase .armed s).run (notify listening) d = ⟨some (.ok ()), s, d⟩ :=
    run_expectPhase_of_eq hphase
  rw [hmid.eq_run (isDirect_expectPhase _ s), hrun] at hr
  obtain ⟨mid', hmid', hr'⟩ := outcome_bind hr
  cases hmid' with
  | @givenUp _ s' _ _ _ d' hstirs => exact ⟨s', d', hstirs, .inl hr'⟩
  | @woken _ s' _ _ _ d' outcome _ hstirs hready hrest =>
    cases hrest
    refine ⟨s', d', hstirs, .inr ⟨outcome, hready, ?_⟩⟩
    cases outcome with
    | halted pc => exact Outcome.eq_run hr' (isDirect_halted pc s'.dropWait)
    | failed e => exact Outcome.eq_run hr' trivial
    | superseded => exact Outcome.eq_run hr' trivial

/-- A session that waits is not passed over: what it gets is a halt or a failure. -/
theorem Running.of_outcome (h : s.Running) {outcome : HaltOutcome}
    (houtcome : s.outcome? = some outcome) :
    s.latch.isArmed = false ∧ outcome ≠ .superseded := by
  obtain ⟨⟨wait, hwait, hserves⟩, -⟩ := h
  simp only [outcome?, hwait] at houtcome
  cases hstate : s.latch.state wait with
  | pending => simp [hstate] at houtcome
  | gone => exact absurd hstate hserves.not_gone
  | ready outcome' =>
    simp only [hstate, Option.some.injEq] at houtcome
    obtain ⟨hunarmed, hne⟩ := hserves.ready hstate
    exact ⟨by simp [Latch.isArmed, hunarmed], houtcome ▸ hne⟩

theorem settles_waitForHalt (h : Outcome (notify listening) Stirs (waitForHalt s) d r)
    (hs : s.AtRest d) (hphase : s.phase = .armed) : Settles r := by
  obtain ⟨s', d', hstirs, hr⟩ := outcome_waitForHalt h hphase
  -- Whatever happens while it waits, the session stays armed and in one piece.
  obtain ⟨hphase', hrest⟩ := hs.after_stirs hstirs
  obtain rfl | ⟨outcome, houtcome, rfl⟩ := hr
  · exact hrest
  have hrunning : s'.Running := (hrest.running (hphase'.trans hphase)).1
  obtain ⟨hunarmed, hne⟩ := hrunning.of_outcome houtcome
  cases outcome with
  | superseded => exact absurd rfl hne
  | failed e => exact ⟨rfl, nofun⟩
  | halted pc =>
    refine settles_of_ends ((ends_halted s'.dropWait d' pc).mono ?_ ?_)
    · rintro _ s'' d'' ⟨-, rfl, rfl⟩
      refine atRest_pause (wait_dropWait s') ?_ ?_ pc
      · rw [isArmed_dropWait]
        exact hunarmed
      · rw [hasHalted_dropWait, status_dropWait]
        exact hrunning.status
    · exact fun e _ _ => not_harmless_of_breaks

end WaitForHalt

end Session

end BoardDebug
