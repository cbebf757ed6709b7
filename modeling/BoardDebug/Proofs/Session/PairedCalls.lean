import BoardDebug.Proofs.Session.Failure
import BoardDebug.Proofs.Session.Pairing

namespace BoardDebug

open Call Routine

/-- Two runs with the same result, that end in paired worlds. -/
structure Call.Run.Paired {α : Type} (run run' : Run Controller SimulatedDevice α) : Prop where
  result : run.result = run'.result
  worlds : World.Paired (run.state, run.link) (run'.state, run'.link)

namespace SimulatedDevice

theorem halts_mark (d : SimulatedDevice) (s : Session) (status : DebugStatus) :
    (d.mark s status).halts = d.halts ∧ (d.mark s status).haltedAt = d.haltedAt := by
  unfold mark
  cases s.area <;> split <;> exact ⟨rfl, rfl⟩

end SimulatedDevice

namespace Session

variable {s s' : Session} {d d' : SimulatedDevice} {listening listening' : Bool} {α : Type}

/-- What a direct routine makes of paired sessions, if it does not tear them down. -/
def KeepsPaired (call : Routine Session α) (s s' : Session) (d d' : SimulatedDevice)
    (listening' : Bool) : Prop :=
  ∀ result, (run (notify true) call s d).result = some result →
    (∀ e, result = .error e → e.isHarmless) →
    Paired (run (notify true) call s d).link.haltedAt (run (notify true) call s d).state
      (run (notify listening') call s' d').state

/-- The routine does not fail in a harmless way, and pairs sessions when it is done. -/
theorem keepsPaired_of_ends {call : Routine Session α}
    {ok ok' : α → Session → SimulatedDevice → Prop}
    {bad' : SessionError → Session → SimulatedDevice → Prop}
    (hcoupled : Coupled (s, d) (s', d')) (htwins : Twins true listening' call call)
    (hends : (run (notify true) call s d).Ends ok fun e _ _ => e.isHarmless = false)
    (hends' : (run (notify listening') call s' d').Ends ok' bad')
    (hpaired : ∀ a t e a' t' e', ok a t e → ok' a' t' e' → t.Like t' → Paired e.haltedAt t t') :
    KeepsPaired call s s' d d' listening' := by
  obtain ⟨hresult, hlike, -⟩ := htwins s d s' d' hcoupled
  intro result hrun hharmless
  cases result with
  | error e =>
    have hnot := hends.of_error hrun
    simp [hharmless e rfl] at hnot
  | ok a =>
    exact hpaired _ _ _ _ _ _ (hends.of_ok hrun) (hends'.of_ok (hresult.symm.trans hrun)) hlike

theorem keepsPaired_writeStatus (status : DebugStatus) (hdevice : d.Like d')
    (h : Paired d.haltedAt s s') : KeepsPaired (writeStatus status) s s' d d' listening' := by
  refine keepsPaired_of_ends ⟨h.like, hdevice⟩ (twins_writeStatus status)
    ((ends_writeStatus s d status).mono (fun _ _ _ h => h)
      fun _ _ _ hbad => (not_harmless_of_breaks hbad.2.1).1) (ends_writeStatus s' d' status) ?_
  rintro a _ _ a' _ _ ⟨-, rfl, rfl⟩ ⟨-, rfl, rfl⟩ hlike
  rw [(d.halts_mark s status).2]
  exact h.keepsWatch hlike (s.keepsWatch_mark status d) (s'.keepsWatch_mark status d')

theorem keepsPaired_step (into : Bool) (hdevice : d.Like d') (h : Paired d.haltedAt s s') :
    KeepsPaired (step into) s s' d d' listening' := by
  by_cases hphase : s.phase = .paused
  case neg =>
    intro result _ _
    rw [run_step_of_ne hphase, run_step_of_ne (by rwa [h.like.phase])]
    exact h
  case pos =>
    have hphase' : s'.phase = .paused := h.like.phase.trans hphase
    have hcurrent : s'.current = s.current := by
      obtain ⟨latch, wait, observer⟩ := h.like
      rfl
    cases hsome : s.current with
    | none =>
      intro result _ _
      rw [run_step_of_none hphase hsome, run_step_of_none hphase' (hcurrent.trans hsome)]
      exact h
    | some current =>
      refine keepsPaired_of_ends ⟨h.like, hdevice⟩ (twins_step into)
        ((ends_step hphase hsome into).mono (fun _ _ _ h => h)
          fun _ _ _ hbad => (not_harmless_of_breaks hbad).1)
        (ends_step hphase' (hcurrent.trans hsome) into) ?_
      rintro a _ _ a' _ _ ⟨rfl, rfl⟩ ⟨rfl, rfl⟩ hlike
      have hhalts : (d.proceed s into current).haltedAt = d.halts.head? :=
        congrArg List.head? ((d.arm _).halts_mark s (stepStatus into)).1
      rw [hhalts]
      have hwait := h.paused hphase
      refine paired_go hlike ?_ hdevice ?_ ?_
      · simpa using hwait
      · simpa [(keepsWatch_mark _ _ _).observer] using h.pushed
      · exact (h.polled (.inr hphase)).of_observer (keepsWatch_mark _ _ _).observer

/-- A session that has caught a halt tells of it. -/
theorem keepsPaired_halted (pc : UInt32) (hdevice : d.Like d') (hlike : s.Like s')
    (hwait : s.wait = none ∧ s'.wait = none)
    (hpushed : ∀ interval stage, s.observer ≠ some (.poll interval stage))
    (hpolled : s'.IsPolled) : KeepsPaired (halted pc) s s' d d' listening' := by
  refine keepsPaired_of_ends ⟨hlike, hdevice⟩ (twins_halted pc)
    ((ends_halted s d pc).mono (fun _ _ _ h => h)
      fun _ _ _ hbad => (not_harmless_of_breaks hbad).1) (ends_halted s' d' pc) ?_
  rintro a _ _ a' _ _ ⟨-, rfl, rfl⟩ ⟨-, rfl, rfl⟩ hlike
  exact paired_pause hlike hwait hpushed hpolled

/-- What is left of a wait that is over. -/
def closeWait (outcome : HaltOutcome) : Routine Session HaltMessage := do
  modify dropWait
  match outcome with
  | .halted pc => halted pc
  | .failed error => Routine.fail (.link error)
  | .superseded => Routine.fail .superseded

theorem waitForHalt_eq (s : Session) :
    waitForHalt s =
      if s.phase = .armed then .await s outcome? closeWait
      else .done s (.error (.wrongPhase .armed s.phase)) := by
  have hexpect : expectPhase .armed s =
      if s.phase = .armed then .done s (.ok ())
      else .done s (.error (.wrongPhase .armed s.phase)) := by
    change (if s.phase = .armed then pure () else Routine.fail _ : Routine Session Unit) s = _
    split <;> rfl
  change (expectPhase .armed s).bind _ = _
  rw [hexpect]
  split <;> rfl

theorem isDirect_closeWait (outcome : HaltOutcome) : (closeWait outcome).IsDirect := by
  refine Routine.isDirect_bind (isDirect_modify _) fun _ => ?_
  cases outcome with
  | halted pc => exact isDirect_halted pc
  | failed error => exact isDirect_fail _
  | superseded => exact isDirect_fail _

theorem twins_closeWait (pc : UInt32) :
    Twins listening listening' (closeWait (.halted pc)) (closeWait (.halted pc)) :=
  alike_bind (twins_modify fun _ _ h => h.dropWait) fun _ => twins_halted pc

theorem keepsPaired_closeWait (pc : UInt32) (hdevice : d.Like d')
    (h : Paired d.haltedAt s s') (hphase : s.phase = .armed) :
    KeepsPaired (closeWait (.halted pc)) s s' d d' listening' := by
  have hobserver (s : Session) : s.dropWait.observer = s.observer := by
    rw [dropWait_eq]
  refine keepsPaired_halted pc hdevice h.like.dropWait ⟨wait_dropWait s, wait_dropWait s'⟩ ?_
    ((h.polled (.inl hphase)).of_observer (hobserver s'))
  rw [hobserver]
  exact h.pushed

theorem keepsPaired_flashAndArm (hdevice : d.Like d') (hlike : s.Like s')
    (hwait : s.wait = none ∧ s'.wait = none)
    (hpushed : ∀ interval stage, s.observer ≠ some (.poll interval stage))
    (hpolled : s'.IsPolled) : KeepsPaired flashAndArm s s' d d' listening' := by
  refine keepsPaired_of_ends ⟨hlike, hdevice⟩ twins_flashAndArm
    ((ends_flashAndArm s d).mono (fun _ _ _ h => h) ?_) (ends_flashAndArm s' d') ?_
  · rintro e _ _ (⟨rfl, -, -⟩ | hbreaks)
    · rfl
    · exact (not_harmless_of_breaks hbreaks).1
  · rintro a _ _ a' _ _ ⟨entry, -, rfl, rfl⟩ ⟨entry', -, rfl, rfl⟩ hlike
    have hpaired := paired_go hlike hwait hdevice hpushed hpolled
    exact hpaired

end Session

namespace Controller

variable {w w' : World} {α : Type} {haltedAt : Option UInt32} {c c' : Controller}

/-- Controllers that have taken over what came of the same call on their sessions stay paired. -/
theorem paired_adopt {run run' : Run Session SimulatedDevice (Except SessionError α)}
    (hc : Paired haltedAt c c') (hlistening : c.listening = true) (hsome : run.result.isSome)
    (halike : run.Alike Session.Coupled run')
    (hpaired : ∀ result, run.result = some result → (∀ e, result = .error e → e.isHarmless) →
      Session.Paired run.link.haltedAt run.state run'.state) :
    (c.adopt run).Paired (c'.adopt run') := by
  obtain ⟨hresult, hlike, hdevice⟩ := halike
  obtain ⟨result, hrun⟩ := Option.isSome_iff_exists.1 hsome
  have hrun' : run'.result = some result := hresult.symm.trans hrun
  simp only [adopt, hrun, hrun']
  refine ⟨rfl, hdevice, ?_⟩
  have hseat (hharmless : ∀ e, result = .error e → e.isHarmless) :
      Paired run.link.haltedAt (c.seat run.state) (c'.seat run'.state) :=
    hc.seat hlistening (hpaired result hrun hharmless)
  cases result with
  | ok a => exact hseat (by simp)
  | error e =>
    by_cases hharmless : e.isHarmless
    · simp only [settle, hharmless, if_true]
      exact hseat (by simpa using hharmless)
    · simp only [settle, hharmless, Bool.false_eq_true, if_false]
      exact hc.seat hlistening (Session.paired_terminate hlike)

theorem onSession_of_none (h : c.session = none) (call : Routine Session α) :
    onSession call c = .done c (.error .noSession) := by
  unfold onSession
  simp only [h]

/-- A direct call on the session does the same in paired worlds. -/
theorem paired_onSession {call : Routine Session α} (h : w.Paired w') (hdirect : call.IsDirect)
    (htwins : ∀ listening', Session.Twins true listening' call call)
    (hkeeps : ∀ s s' listening', w.1.session = some s → w'.1.session = some s' →
      Session.Paired w.2.haltedAt s s' → Session.KeepsPaired call s s' w.2 w'.2 listening') :
    (Routine.run notify (onSession call) w.1 w.2).Paired
      (Routine.run notify (onSession call) w'.1 w'.2) := by
  obtain ⟨hnone, hnone'⟩ | ⟨s, s', hs, hs', hlistening, hpaired⟩ := h.controller.sessions
  · rw [Routine.run, Routine.run, onSession_of_none hnone, onSession_of_none hnone']
    exact ⟨rfl, h⟩
  · rw [run_onSession hs, run_onSession hs', hlistening]
    exact paired_adopt h.controller hlistening (isSome_run (hdirect s) _)
      (htwins _ s w.2 s' w'.2 ⟨hpaired.like, h.device⟩) (hkeeps s s' _ hs hs' hpaired)

theorem isDirect_onSession {call : Routine Session α} (h : call.IsDirect) :
    (onSession call).IsDirect := by
  intro c
  unfold onSession
  cases c.session with
  | none => trivial
  | some s => exact isDirect_bind (isDirect_within (h s) c) fun _ _ => trivial

theorem isDirect_start (has : Capabilities) (compiled : Except CompileError Program) :
    (start has compiled).IsDirect := by
  intro c
  rw [start_eq]
  cases opening has compiled c.config with
  | error e => trivial
  | ok begun => exact isDirect_onSession Session.isDirect_flashAndArm _

theorem install_push {has : Capabilities} {strategy : HaltStrategy} {interval : Nat}
    (hevents : has.events = true) (hstrategy : strategy ≠ .poll) :
    Observer.install has strategy interval = .ok .push := by
  cases strategy with
  | auto => simp [Observer.install, HaltStrategy.usesEvents, hevents, Except.map]
  | push => simp [Observer.install, HaltStrategy.usesEvents, hevents, Except.map]
  | poll => exact absurd rfl hstrategy

theorem install_poll {strategy : HaltStrategy} {interval : Nat} (hstrategy : strategy ≠ .push) :
    Observer.install ⟨false, true⟩ strategy interval = .ok (.poll interval .fresh) := by
  cases strategy with
  | auto => rfl
  | push => exact absurd rfl hstrategy
  | poll => rfl

/-- Both starts give up for the same reason, or begin sessions with the same program. -/
theorem opening_paired (h : w.Paired w') (compiled : Except CompileError Program) :
    (∃ e, opening w.2.capabilities compiled w.1.config = .error e ∧
      opening w'.2.capabilities compiled w'.1.config = .error e) ∨
    ∃ program table,
      opening w.2.capabilities compiled w.1.config = .ok (.new program table .push, .push) ∧
      opening w'.2.capabilities compiled w'.1.config =
        .ok (.new program table (.poll w'.1.config.pollInterval .fresh),
          .poll w'.1.config.pollInterval .fresh) := by
  have hpush : ∀ interval, Observer.install w.2.capabilities w.1.config.strategy interval =
      .ok .push :=
    fun _ => install_push h.device.capabilities.1 h.controller.pushes
  have hpoll : ∀ interval, Observer.install w'.2.capabilities w'.1.config.strategy interval =
      .ok (.poll interval .fresh) := by
    intro interval
    rw [h.device.capabilities.2]
    exact install_poll h.controller.polls.1
  unfold opening
  rcases compiled with e | program
  · exact .inl ⟨_, rfl, rfl⟩
  dsimp only
  cases BreakpointTable.ofList? program.breakpoints with
  | none => exact .inl ⟨_, rfl, rfl⟩
  | some table =>
    simp only [hpush, hpoll]
    exact .inr ⟨program, table, rfl, rfl⟩

theorem paired_start (h : w.Paired w') (compiled : Except CompileError Program) :
    (Routine.run notify (start w.2.capabilities compiled) w.1 w.2).Paired
      (Routine.run notify (start w'.2.capabilities compiled) w'.1 w'.2) := by
  have hgivesUp {has : Capabilities} {c : Controller} {e : SessionError}
      (hopening : opening has compiled c.config = .error e) (d : SimulatedDevice) :
      Routine.run notify (start has compiled) c d = ⟨some (.error e), c.giveUp, d⟩ := by
    rw [Routine.run, start_eq, hopening]
    rfl
  have hbegins {has : Capabilities} {c : Controller} {s : Session} {observer : Observer}
      (hopening : opening has compiled c.config = .ok (s, observer)) (d : SimulatedDevice) :
      Routine.run notify (start has compiled) c d =
        Routine.run notify (onSession Session.flashAndArm) (c.embark s observer) d := by
    rw [Routine.run, start_eq, hopening]
    rfl
  obtain ⟨e, hpush, hpoll⟩ | ⟨program, table, hpush, hpoll⟩ := opening_paired h compiled
  · rw [hgivesUp hpush, hgivesUp hpoll]
    exact ⟨rfl, h.device, h.controller.pushes, h.controller.polls, rfl, .inl ⟨rfl, rfl⟩⟩
  · rw [hbegins hpush, hbegins hpoll]
    let interval := w'.1.config.pollInterval
    let s : Session := .new program table .push
    let s' : Session := .new program table (.poll interval .fresh)
    have hlike : s.Like s' := .mk _ _ _
    have hpushed : ∀ interval stage, s.observer ≠ some (.poll interval stage) := by
      simp [s, Session.new]
    have hpolled : s'.IsPolled := ⟨interval, .fresh, h.controller.polls.2, by simp, rfl⟩
    have hphase : s.phase ≠ .armed ∧ s.phase ≠ .paused := by simp [s, Session.new]
    have hpaired : Session.Paired w.2.haltedAt s s' :=
      ⟨hlike, hpushed, fun _ => hpolled, (absurd · hphase.1), (absurd · hphase.2)⟩
    have hbegun : World.Paired (w.1.embark s .push, w.2)
        (w'.1.embark s' (.poll interval .fresh), w'.2) :=
      ⟨h.device, h.controller.pushes, h.controller.polls, rfl,
        .inr ⟨s, s', rfl, rfl, Bool.or_true _, hpaired⟩⟩
    refine paired_onSession hbegun Session.isDirect_flashAndArm
      (fun _ => Session.twins_flashAndArm) ?_
    rintro _ _ listening' ⟨⟩ ⟨⟩ _
    exact Session.keepsPaired_flashAndArm h.device hlike ⟨rfl, rfl⟩ hpushed hpolled

end Controller

end BoardDebug
