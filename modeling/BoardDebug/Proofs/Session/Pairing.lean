import BoardDebug.Proofs.Session.Errands
import BoardDebug.Proofs.Session.Lockstep
import BoardDebug.Proofs.Session.Script

namespace BoardDebug

open Call Routine

namespace Latch

/-- The latch is armed for a wait on a running device. -/
structure Awaits (latch : Latch) (wait : Nat) : Prop where
  armed : latch.armed = some ⟨wait, true⟩
  state : latch.state wait = .pending

/-- The latch has fired for a wait with a halt at `pc`. -/
structure Caught (latch : Latch) (wait : Nat) (pc : UInt32) : Prop where
  armed : latch.armed = none
  state : latch.state wait = .ready (.halted pc)

variable {latch : Latch} {wait : Nat} {pc : UInt32}

theorem Awaits.isWaiting (h : latch.Awaits wait) : latch.isWaiting = true := by
  simp [Latch.isWaiting, h.armed, h.state]

theorem Awaits.fulfill (h : latch.Awaits wait) (pc : UInt32) :
    (latch.fulfill pc).2.Caught wait pc :=
  ⟨armed_complete latch _, state_complete h.armed h.state _⟩

theorem Caught.fulfill (h : latch.Caught wait pc) (pc' : UInt32) :
    (latch.fulfill pc').2.Caught wait pc := by
  unfold Latch.fulfill
  rw [complete_of_unarmed h.armed]
  exact h

theorem awaits_arm (latch : Latch) : latch.arm.2.setRunning.Awaits latch.arm.1 :=
  ⟨rfl, state_arm latch⟩

/-- A halt may come before the latch learns that the device runs. -/
theorem caught_arm (latch : Latch) (pc : UInt32) :
    (latch.arm.2.fulfill pc).2.setRunning.Caught latch.arm.1 pc := by
  have harmed : (latch.arm.2.fulfill pc).2.armed = none := armed_complete _ _
  refine ⟨by simp [setRunning, harmed], ?_⟩
  rw [state_setRunning]
  exact state_complete (armed_arm latch) (state_arm latch) _

end Latch

theorem PollStage.tick_ne_ended (interval latency now due : Nat) (waiting : Bool) :
    tick interval latency now due waiting ≠ .ended := by
  unfold tick
  cases waiting <;> simp

namespace Session

/-- A session that is told of halts: it has caught the one at which its device stands. -/
def Hears (s : Session) (haltedAt : Option UInt32) : Prop :=
  ∃ wait, s.wait = some wait ∧
    match haltedAt with
    | none => s.latch.Awaits wait
    | some pc => s.latch.Caught wait pc

/-- A session that asks for halts: it may not know yet that its device is halted. -/
def Asks (s : Session) (haltedAt : Option UInt32) : Prop :=
  ∃ wait, s.wait = some wait ∧
    (s.latch.Awaits wait ∨ ∃ pc, haltedAt = some pc ∧ s.latch.Caught wait pc)

/-- There is a task that asks for halts, and it goes on. -/
def IsPolled (s : Session) : Prop :=
  ∃ interval stage, 0 < interval ∧ stage ≠ .ended ∧ s.observer = some (.poll interval stage)

/-- A session that is told of halts and one that asks for them, on devices that are halted at the
same place. -/
structure Paired (haltedAt : Option UInt32) (s s' : Session) : Prop where
  like : s.Like s'
  pushed : ∀ interval stage, s.observer ≠ some (.poll interval stage)
  polled : s.phase = .armed ∨ s.phase = .paused → s'.IsPolled
  armed : s.phase = .armed → s.Hears haltedAt ∧ s'.Asks haltedAt
  paused : s.phase = .paused → s.wait = none ∧ s'.wait = none

variable {s s' : Session} {d : SimulatedDevice} {haltedAt : Option UInt32} {pc : UInt32}
  {listening : Bool}

theorem Like.phase (h : s.Like s') : s'.phase = s.phase := by
  obtain ⟨latch, wait, observer⟩ := h
  rfl

theorem outcome?_of_awaits {wait : Nat} (hwait : s.wait = some wait)
    (h : s.latch.Awaits wait) : s.outcome? = none := by
  simp [outcome?, hwait, h.state]

theorem outcome?_of_caught {wait : Nat} (hwait : s.wait = some wait)
    (h : s.latch.Caught wait pc) : s.outcome? = some (.halted pc) := by
  simp [outcome?, hwait, h.state]

theorem Hears.outcome? (h : s.Hears haltedAt) : s.outcome? = haltedAt.map .halted := by
  obtain ⟨wait, hwait, h⟩ := h
  cases haltedAt with
  | none => exact outcome?_of_awaits hwait h
  | some pc => exact outcome?_of_caught hwait h

theorem Asks.outcome? (h : s.Asks haltedAt) :
    s.outcome? = none ∨ ∃ pc, haltedAt = some pc ∧ s.outcome? = some (.halted pc) := by
  obtain ⟨wait, hwait, h | ⟨pc, hpc, h⟩⟩ := h
  · exact .inl (outcome?_of_awaits hwait h)
  · exact .inr ⟨pc, hpc, outcome?_of_caught hwait h⟩

/-! A session whose device was set going. -/

theorem hears_go (hwait : s.wait = none) (hevents : d.capabilities.events = true) :
    (s.go true d).Hears d.halts.head? := by
  refine ⟨s.latch.arm.1, ?_⟩
  unfold go hear
  rw [arm_of_none hwait]
  refine ⟨rfl, ?_⟩
  cases d.halts.head? with
  | none => exact s.latch.awaits_arm
  | some pc =>
    simp only [hevents, and_self, if_true]
    exact s.latch.caught_arm pc

theorem asks_go (hwait : s.wait = none) (hevents : d.capabilities.events = false)
    (haltedAt : Option UInt32) : (s.go listening d).Asks haltedAt := by
  refine ⟨s.latch.arm.1, ?_⟩
  unfold go hear
  rw [arm_of_none hwait]
  refine ⟨rfl, .inl ?_⟩
  cases d.halts.head? with
  | none => exact s.latch.awaits_arm
  | some pc =>
    simp only [hevents, Bool.false_eq_true, false_and, if_false]
    exact s.latch.awaits_arm

theorem observer_go (s : Session) (listening : Bool) (d : SimulatedDevice) :
    (s.go listening d).observer = s.observer := by
  unfold go hear
  rw [arm_eq]
  rfl

theorem IsPolled.of_observer (h : s.IsPolled) (hobserver : s'.observer = s.observer) :
    s'.IsPolled := by
  obtain ⟨interval, stage, hinterval, hstage, hpoll⟩ := h
  exact ⟨interval, stage, hinterval, hstage, hobserver.trans hpoll⟩

/-- Sessions that are going on stay paired when their devices are set going. -/
theorem paired_go {d' : SimulatedDevice} (hlike : (s.go true d).Like (s'.go listening d'))
    (hwait : s.wait = none ∧ s'.wait = none) (hdevice : d.Like d')
    (hpushed : ∀ interval stage, s.observer ≠ some (.poll interval stage))
    (hpolled : s'.IsPolled) : Paired d.halts.head? (s.go true d) (s'.go listening d') := by
  obtain ⟨log, hevents, -, -⟩ := hdevice
  refine ⟨hlike, ?_, fun _ => hpolled.of_observer (observer_go _ _ _), fun _ => ?_, nofun⟩
  · rw [observer_go]
    exact hpushed
  · exact ⟨hears_go hwait.1 hevents, asks_go hwait.2 rfl _⟩

/-- What stands by as before, so that the session hears of the same halts. -/
structure KeepsWatch (s s' : Session) : Prop where
  phase : s'.phase = s.phase
  wait : s'.wait = s.wait
  latch : s'.latch = s.latch
  observer : s'.observer = s.observer

theorem keepsWatch_mark (s : Session) (status : DebugStatus) (d : SimulatedDevice) :
    s.KeepsWatch (s.mark status d) := by
  unfold mark
  split <;> exact ⟨rfl, rfl, rfl, rfl⟩

theorem Paired.keepsWatch {t t' : Session} (h : Paired haltedAt s s') (hlike : t.Like t')
    (hs : s.KeepsWatch t) (hs' : s'.KeepsWatch t') : Paired haltedAt t t' where
  like := hlike
  pushed := hs.observer ▸ h.pushed
  polled hphase := (h.polled (hs.phase ▸ hphase)).of_observer hs'.observer
  armed hphase := by
    obtain ⟨hhears, hasks⟩ := h.armed (hs.phase.symm.trans hphase)
    unfold Hears at hhears ⊢
    unfold Asks at hasks ⊢
    rw [hs.wait, hs.latch, hs'.wait, hs'.latch]
    exact ⟨hhears, hasks⟩
  paused hphase := by
    rw [hs.wait, hs'.wait]
    exact h.paused (hs.phase.symm.trans hphase)

theorem watch_pause (s : Session) (pc : UInt32) (d : SimulatedDevice) :
    (s.pause pc d).phase = .paused ∧ (s.pause pc d).wait = s.wait ∧
      (s.pause pc d).observer = s.observer := by
  unfold pause mark
  split
  · exact ⟨rfl, rfl, rfl⟩
  · split <;> exact ⟨rfl, rfl, rfl⟩

theorem paired_pause {d' : SimulatedDevice} (hlike : (s.pause pc d).Like (s'.pause pc d'))
    (hwait : s.wait = none ∧ s'.wait = none)
    (hpushed : ∀ interval stage, s.observer ≠ some (.poll interval stage))
    (hpolled : s'.IsPolled) : Paired haltedAt (s.pause pc d) (s'.pause pc d') := by
  obtain ⟨hphase, hwait₁, hobserver⟩ := s.watch_pause pc d
  obtain ⟨-, hwait₂, hobserver'⟩ := s'.watch_pause pc d'
  refine ⟨hlike, hobserver ▸ hpushed, fun _ => hpolled.of_observer hobserver', ?_, fun _ => ?_⟩
  · simp [hphase]
  · rw [hwait₁, hwait₂]
    exact hwait

theorem Like.terminate (h : s.Like s') : s.terminate.Like s'.terminate := by
  have hdropped := h.dropWait
  unfold Session.terminate
  generalize s.dropWait = t at hdropped
  generalize s'.dropWait = t' at hdropped
  obtain ⟨latch, wait, observer⟩ := hdropped
  exact .mk _ _ _

theorem paired_terminate (h : s.Like s') : Paired haltedAt s.terminate s'.terminate :=
  ⟨h.terminate, nofun, nofun, nofun, nofun⟩

/-- A halt reaches the session that is told of halts at once, and the other one later. -/
theorem Paired.halt (h : Paired none s s') (pc : UInt32) : Paired (some pc) (s.fulfill pc) s' where
  like := h.like.drift (s.drift_fulfill pc)
  pushed := h.pushed
  polled := h.polled
  armed hphase := by
    obtain ⟨⟨wait, hwait, hawaits⟩, wait', hwait', hasks⟩ := h.armed hphase
    refine ⟨⟨wait, hwait, hawaits.fulfill pc⟩, wait', hwait', ?_⟩
    obtain hawaits' | ⟨_, hnone, -⟩ := hasks
    · exact .inl hawaits'
    · cases hnone
  paused := h.paused

/-- A session after its task has gone on, on a device that says where it is halted. -/
def polled (s : Session) (haltedAt : Option UInt32) (interval now : Nat) : PollStage → Session
  | .fresh => { s with observer := some (.poll interval (.begin interval now)) }
  | .asleep due =>
    { s with observer := some (.poll interval (.tick interval 0 now due s.latch.isWaiting)) }
  | .asking due _ =>
    { s with
      latch := haltedAt.elim s.latch fun pc => (s.latch.fulfill pc).2
      observer := some (.poll interval (.asleep due)) }
  | .ended => s

/-- The task goes on for as long as the session does. -/
theorem IsPolled.polled {interval : Nat} {stage : PollStage} (h : s.IsPolled)
    (hobserver : s.observer = some (.poll interval stage)) (haltedAt : Option UInt32) (now : Nat) :
    (s.polled haltedAt interval now stage).IsPolled := by
  obtain ⟨interval', stage', hinterval, hstage, hpoll⟩ := h
  rw [hobserver] at hpoll
  cases hpoll
  cases stage with
  | fresh =>
    refine ⟨_, _, hinterval, ?_, rfl⟩
    simp [PollStage.begin, Nat.ne_of_gt hinterval]
  | asleep due => exact ⟨_, _, hinterval, PollStage.tick_ne_ended _ _ _ _ _, rfl⟩
  | asking due answered => exact ⟨_, .asleep due, hinterval, nofun, rfl⟩
  | ended => exact absurd rfl hstage

theorem Paired.goesOn (h : Paired haltedAt s s') {interval : Nat} {stage : PollStage}
    (hobserver : s'.observer = some (.poll interval stage)) (now : Nat) :
    Paired haltedAt s (s'.polled haltedAt interval now stage) := by
  have hwait : (s'.polled haltedAt interval now stage).wait = s'.wait := by
    cases stage <;> rfl
  have hlike : s.Like (s'.polled haltedAt interval now stage) := by
    obtain ⟨latch, wait, observer⟩ := h.like
    cases stage <;> exact .mk _ _ _
  refine ⟨hlike, h.pushed, fun hphase => (h.polled hphase).polled hobserver _ _, fun hphase => ?_,
    fun hphase => hwait ▸ h.paused hphase⟩
  obtain ⟨hhears, wait, hsome, hasks⟩ := h.armed hphase
  refine ⟨hhears, wait, hwait.trans hsome, ?_⟩
  -- The latch is fired by an answer only.
  cases stage with
  | fresh => exact hasks
  | asleep due => exact hasks
  | ended => exact hasks
  | asking due answered =>
    cases haltedAt with
    | none => exact hasks
    | some pc =>
      obtain hawaits | ⟨pc', hpc', hcaught⟩ := hasks
      · exact .inr ⟨pc, rfl, hawaits.fulfill pc⟩
      · exact .inr ⟨pc', hpc', hcaught.fulfill pc⟩

end Session

namespace SimulatedDevice

variable {d d' : SimulatedDevice}

theorem Like.haltedAt (h : d.Like d') : d'.haltedAt = d.haltedAt := by
  obtain ⟨log, -, -, -⟩ := h
  rfl

/-- A device that has to be asked says where it is halted. -/
theorem Like.serve_queryHalt (h : d.Like d') :
    d'.serve .queryHalt = ⟨.ok d.haltedAt, d'.note .queryHalt, []⟩ := by
  obtain ⟨log, -, hfailures, -⟩ := h
  simp [SimulatedDevice.serve, refuses, Request.kind, hfailures, note, SimulatedDevice.answer]

theorem Like.note_queryHalt (h : d.Like d') : d.Like (d'.note .queryHalt) := by
  obtain ⟨log, hevents, hfailures, hlog⟩ := h
  refine .mk _ hevents hfailures ?_
  rw [orders_append, hlog]
  exact List.append_nil _

end SimulatedDevice

namespace Controller

/-- A controller that is told of halts and one that asks for them, on devices that are halted at the
same place. -/
structure Paired (haltedAt : Option UInt32) (c c' : Controller) : Prop where
  pushes : c.config.strategy ≠ .poll
  polls : c'.config.strategy ≠ .push ∧ 0 < c'.config.pollInterval
  rest : c.restPhase = c'.restPhase
  sessions : (c.session = none ∧ c'.session = none) ∨ ∃ s s', c.session = some s ∧
    c'.session = some s' ∧ c.listening = true ∧ Session.Paired haltedAt s s'

variable {haltedAt haltedAt' : Option UInt32} {c c' : Controller} {s s' : Session}

theorem Paired.seat (h : Paired haltedAt c c') (hlistening : c.listening = true)
    (hs : Session.Paired haltedAt' s s') : Paired haltedAt' (c.seat s) (c'.seat s') :=
  ⟨h.pushes, h.polls, h.rest, .inr ⟨s, s', rfl, rfl, hlistening, hs⟩⟩

theorem Paired.of_none (h : Paired haltedAt c c') (hnone : c.session = none)
    (hnone' : c'.session = none) : Paired haltedAt' c c' :=
  ⟨h.pushes, h.polls, h.rest, .inl ⟨hnone, hnone'⟩⟩

theorem Paired.phase (h : Paired haltedAt c c') : c.phase = c'.phase := by
  obtain ⟨hnone, hnone'⟩ | ⟨s, s', hs, hs', -, hpaired⟩ := h.sessions
  · simp only [Controller.phase, hnone, hnone', h.rest]
  · simp only [Controller.phase, hs, hs', hpaired.like.phase]

end Controller

namespace World

/-- A world in which halts are told of and one in which they are asked for. -/
structure Paired (w w' : World) : Prop where
  device : w.2.Like w'.2
  controller : Controller.Paired w.2.haltedAt w.1 w'.1

variable {w w' : World} {incident : Incident}

theorem Paired.allows (h : w.Paired w') : w'.Allows incident ↔ w.Allows incident := by
  cases incident with
  | haltNow pc => simp only [Allows, h.device.haltedAt]
  | queueHalt => rfl
  | inject => rfl
  | poll => rfl

theorem Paired.after (h : w.Paired w') (hallows : w.Allows incident) :
    (w.after incident).Paired (w'.after incident) := by
  obtain ⟨c, d⟩ := w
  obtain ⟨c', d'⟩ := w'
  obtain ⟨hdevice, hcontroller⟩ := h
  dsimp only at hdevice hcontroller
  cases incident with
  | poll now => exact hallows.elim
  | queueHalt pc =>
    obtain ⟨log, hevents, hfailures, hlog⟩ := hdevice
    exact ⟨.mk _ hevents hfailures hlog, hcontroller⟩
  | inject kind =>
    obtain ⟨log, hevents, hfailures, hlog⟩ := hdevice
    have hinjected : .queryHalt ∉ (d.inject kind).failures := by
      simpa [SimulatedDevice.inject, hfailures] using hallows.symm
    exact ⟨.mk _ hevents hinjected hlog, hcontroller⟩
  | haltNow pc =>
    have hruns : d.haltedAt = none := hallows
    rw [hruns] at hcontroller
    obtain ⟨log, hevents, hfailures, hlog⟩ := hdevice
    rw [after_haltNow, after_haltNow]
    refine ⟨.mk _ hevents hfailures hlog, ?_⟩
    simp only [SimulatedDevice.pausedEvents, hevents, if_true, Bool.false_eq_true, if_false,
      List.foldl_cons, List.foldl_nil]
    obtain ⟨hnone, hnone'⟩ | ⟨s, s', hs, hs', hlistening, hpaired⟩ := hcontroller.sessions
    · rw [Controller.notify_of_none hnone]
      exact hcontroller.of_none hnone hnone'
    · have hnotify : c.notify ⟨Opcode.paused, wordBytes [pc]⟩ = c.seat (s.fulfill pc) := by
        have hplace : haltPlace (wordBytes [pc]) = .ok pc := wordAt_zero_wordBytes pc []
        rw [← Controller.seat_of_session hs, Controller.notify_seat, hlistening]
        simp [Session.notify, hplace, Controller.seat]
      rw [hnotify, ← Controller.seat_of_session hs']
      exact hcontroller.seat hlistening (hpaired.halt pc)

/-- A controller that is told of halts has no task that asks for them. -/
theorem Paired.after_poll_left (h : w.Paired w') (now : Nat) : w.after (.poll now) = w := by
  unfold World.after
  obtain ⟨hnone, -⟩ | ⟨s, s', hs, -, -, hpaired⟩ := h.controller.sessions
  · simp [hnone]
  · simp only [hs, Option.bind_some]
    split
    case h_1 interval stage hobserver => exact absurd hobserver (hpaired.pushed interval stage)
    case h_2 => rfl

theorem Paired.polls_left (h : w.Paired w') {w₁ : World} (hpolls : w.Polls w₁) : w₁ = w := by
  induction hpolls with
  | refl => rfl
  | tail _ hlast ih =>
    obtain ⟨now, rfl⟩ := hlast
    rw [ih, h.after_poll_left]

/-- What the task that asks for halts makes of a world. -/
theorem after_poll {c : Controller} {s : Session} {d d' : SimulatedDevice} {interval : Nat}
    {stage : PollStage} (hdevice : d.Like d') (hobserver : s.observer = some (.poll interval stage))
    (now : Nat) : ∃ d'', d.Like d'' ∧
      World.after (c.seat s, d') (.poll now) =
        (c.seat (s.polled d.haltedAt interval now stage), d'') := by
  have hafter : World.after (c.seat s, d') (.poll now) =
      ofBench ((bench (c.seat s, d') now).poll interval stage) := by
    simp only [World.after, Controller.seat, Option.bind_some, hobserver]
  rw [hafter]
  cases stage with
  | fresh => exact ⟨d', hdevice, rfl⟩
  | asleep due => exact ⟨d', hdevice, rfl⟩
  | ended => exact ⟨d', hdevice, rfl⟩
  | asking due answered =>
    refine ⟨d'.note .queryHalt, hdevice.note_queryHalt, ?_⟩
    simp only [Bench.poll, serve_queryHalt_bench, hdevice.serve_queryHalt]
    cases d.haltedAt <;> rfl

/-- The task that asks for halts leaves worlds paired. -/
theorem Paired.after_poll_right (h : w.Paired w') (now : Nat) :
    w.Paired (w'.after (.poll now)) := by
  obtain ⟨c', d'⟩ := w'
  have hsessions := h.controller.sessions
  dsimp only at hsessions
  obtain ⟨hnone, hnone'⟩ | ⟨s, s', hs, hs', hlistening, hpaired⟩ := hsessions
  · have hafter : World.after (c', d') (.poll now) = (c', d') := by
      simp only [World.after, hnone', Option.bind_none]
    rwa [hafter]
  · by_cases hpoll : ∃ interval stage, s'.observer = some (.poll interval stage)
    · obtain ⟨interval, stage, hobserver⟩ := hpoll
      obtain ⟨d'', hdevice, hafter⟩ := after_poll (c := c') h.device hobserver now
      rw [Controller.seat_of_session hs'] at hafter
      rw [hafter]
      have hseat := h.controller.seat hlistening (hpaired.goesOn hobserver now)
      rw [Controller.seat_of_session hs] at hseat
      exact ⟨hdevice, hseat⟩
    · have hafter : World.after (c', d') (.poll now) = (c', d') := by
        simp only [World.after, hs', Option.bind_some]
        split
        case h_1 interval stage hobserver => exact absurd ⟨_, _, hobserver⟩ hpoll
        case h_2 => rfl
      rwa [hafter]

theorem Paired.polls_right (h : w.Paired w') {w₁ : World} (hpolls : w'.Polls w₁) :
    w.Paired w₁ := by
  induction hpolls with
  | refl => exact h
  | tail _ hlast ih =>
    obtain ⟨now, rfl⟩ := hlast
    exact ih.after_poll_right now

/-- The session of a world has caught a halt. -/
def HasCaught (w : World) (pc : UInt32) : Prop :=
  ∃ s, w.1.session = some s ∧ s.outcome? = some (.halted pc)

section Catching

variable {c : Controller} {s : Session} {d d' : SimulatedDevice} {wait interval due answered : Nat}
  {pc : UInt32}

/-- The task has asked for a halt, and is answered. -/
theorem exists_caught_of_asking (hdevice : d.Like d') (hhalted : d.haltedAt = some pc)
    (hobserver : s.observer = some (.poll interval (.asking due answered)))
    (hwait : s.wait = some wait) (hawaits : s.latch.Awaits wait) :
    ∃ w, Polls (c.seat s, d') w ∧ w.HasCaught pc := by
  obtain ⟨d'', -, hafter⟩ := after_poll (c := c) hdevice hobserver 0
  refine ⟨_, polls_after _ 0, ?_⟩
  rw [hafter, hhalted]
  exact ⟨_, rfl, Session.outcome?_of_caught hwait (hawaits.fulfill pc)⟩

/-- The task asks for a halt, since somebody waits for it. -/
theorem exists_caught_of_asleep (hdevice : d.Like d') (hhalted : d.haltedAt = some pc)
    (hobserver : s.observer = some (.poll interval (.asleep due)))
    (hwait : s.wait = some wait) (hawaits : s.latch.Awaits wait) :
    ∃ w, Polls (c.seat s, d') w ∧ w.HasCaught pc := by
  obtain ⟨d'', hdevice', hafter⟩ := after_poll (c := c) hdevice hobserver 0
  have hasking : (s.polled d.haltedAt interval 0 (.asleep due)).observer =
      some (.poll interval (.tick interval 0 0 due true)) := by
    simp only [Session.polled, hawaits.isWaiting]
  obtain ⟨w, hpolls, hcaught⟩ :=
    exists_caught_of_asking (c := c) hdevice' hhalted hasking hwait hawaits
  rw [← hafter] at hpolls
  exact ⟨w, (polls_after _ 0).trans hpolls, hcaught⟩

theorem exists_caught_of_fresh (hdevice : d.Like d') (hhalted : d.haltedAt = some pc)
    (hinterval : 0 < interval) (hobserver : s.observer = some (.poll interval .fresh))
    (hwait : s.wait = some wait) (hawaits : s.latch.Awaits wait) :
    ∃ w, Polls (c.seat s, d') w ∧ w.HasCaught pc := by
  obtain ⟨d'', hdevice', hafter⟩ := after_poll (c := c) hdevice hobserver 0
  have hasleep : (s.polled d.haltedAt interval 0 .fresh).observer =
      some (.poll interval (.asleep 0)) := by
    simp only [Session.polled, PollStage.begin, if_neg (Nat.ne_of_gt hinterval)]
  obtain ⟨w, hpolls, hcaught⟩ :=
    exists_caught_of_asleep (c := c) hdevice' hhalted hasleep hwait hawaits
  rw [← hafter] at hpolls
  exact ⟨w, (polls_after _ 0).trans hpolls, hcaught⟩

end Catching

/-- A halt does not stay unknown for ever. -/
theorem Paired.exists_caught (h : w.Paired w') {s : Session} (hs : w.1.session = some s)
    (hphase : s.phase = .armed) {pc : UInt32} (hhalted : w.2.haltedAt = some pc) :
    ∃ w₁, w'.Polls w₁ ∧ w₁.HasCaught pc := by
  obtain ⟨c', d'⟩ := w'
  obtain ⟨hnone, -⟩ | ⟨t, s', ht, hs', -, hpaired⟩ := h.controller.sessions
  · simp [hs] at hnone
  obtain rfl : s = t := Option.some.inj (hs.symm.trans ht)
  obtain ⟨-, wait, hwait, hasks⟩ := hpaired.armed hphase
  have hseat : c'.seat s' = c' := Controller.seat_of_session hs'
  rw [← hseat]
  obtain hawaits | ⟨pc', hpc', hcaught⟩ := hasks
  · obtain ⟨interval, stage, hinterval, hstage, hobserver⟩ := hpaired.polled (.inl hphase)
    cases stage with
    | fresh => exact exists_caught_of_fresh h.device hhalted hinterval hobserver hwait hawaits
    | asleep due => exact exists_caught_of_asleep h.device hhalted hobserver hwait hawaits
    | asking due answered => exact exists_caught_of_asking h.device hhalted hobserver hwait hawaits
    | ended => exact absurd rfl hstage
  · cases hhalted.symm.trans hpc'
    exact ⟨_, .refl, s', rfl, Session.outcome?_of_caught hwait hcaught⟩

end World

end BoardDebug
