import BoardDebug.Bench
import BoardDebug.Proofs.Session.Rest

namespace BoardDebug

open Call

/-- A small program. The body of its second procedure starts behind a landing pad. -/
def Program.sample : Program where
  breakpoints := [⟨0, 0, []⟩, ⟨1, 0x2100, [3, 4]⟩, ⟨3, 0x2200, [4]⟩, ⟨4, 0x2300, []⟩]
  procedures :=
    [⟨0, "main", [⟨"count", none⟩], [], none, none⟩, ⟨1, "step", [], [], some 0x2300, some 0x2200⟩]
  image := .empty

/-- A device that tells of its halts and has one global. -/
def SimulatedDevice.sample (halts : List UInt32) : SimulatedDevice :=
  { (SimulatedDevice.new ⟨true, false⟩).withGlobals 0x20000000 [7] with halts }

/-- A controller and the device that it debugs on. -/
abbrev World := Controller × SimulatedDevice

/-- What happens to a world by itself, or by the hand of a tester. -/
inductive Incident where
  | queueHalt (pc : UInt32)
  | haltNow (pc : UInt32)
  | inject (kind : RequestKind)
  /-- The task that asks for halts goes on, at some time. -/
  | poll (now : Nat)

namespace World

/-- A world as it stands on a bench. -/
def bench (w : World) (now : Nat) : Bench :=
  { Bench.new w.1.config (.new w.2) .empty [] with now, controller := w.1 }

def ofBench (bench : Bench) : World :=
  (bench.controller, bench.rig.device)

def after (w : World) : Incident → World
  | .queueHalt pc => (w.1, w.2.queueHalt pc)
  | .haltNow pc => ofBench ((w.bench 0).haltNow pc)
  | .inject kind => (w.1, w.2.inject kind)
  | .poll now =>
    match w.1.session.bind (·.observer) with
    | some (.poll interval stage) => ofBench ((w.bench now).poll interval stage)
    | _ => w

/-- Whether a world can become another one without a call. -/
def Happens (w w' : World) : Prop :=
  ∃ incident, w' = w.after incident

end World

/-- What a caller may ask of a controller. A start comes with what the compiler makes of it. -/
inductive Errand where
  | start (compiled : Except CompileError Program)
  | startDebug (compiled : Except CompileError Program)
  | waitForHalt
  | step (into : Bool)
  | handle (command : StepCommand)
  | writeStatus (status : DebugStatus)
  | finish

namespace Errand

abbrev Reply : Errand → Type
  | start _ => Unit
  | startDebug _ => HaltMessage
  | waitForHalt => HaltMessage
  | step _ => Unit
  | handle _ => Unit
  | writeStatus _ => Bool
  | finish => Unit

def routine (has : Capabilities) : (errand : Errand) → Routine Controller errand.Reply
  | start compiled => Controller.start has compiled
  | startDebug compiled => Controller.startDebug has compiled
  | waitForHalt => Controller.waitForHalt
  | step into => Controller.step into
  | handle command => Controller.handle command
  | writeStatus status => Controller.writeStatus status
  | finish => modify Controller.finish

/-- Whether a session begins. -/
def Opens : Errand → Prop
  | start _ => True
  | startDebug _ => True
  | _ => False

/-- What may come of an errand; a wait may be given up. -/
def Performs (errand : Errand) (w : World)
    (r : Run Controller SimulatedDevice (Except SessionError errand.Reply)) : Prop :=
  Outcome Controller.notify World.Happens (errand.routine w.2.capabilities w.1) w.2 r

end Errand

namespace World

/-- A world can become another one by errands, one after the other, and by what happens between
them. -/
inductive Course : World → List Errand → World → Prop where
  | stay (w : World) : Course w [] w
  | happen {w w' : World} {errands : List Errand} (incident : Incident) :
      Course (w.after incident) errands w' → Course w errands w'
  | perform {w w' : World} {errand : Errand} {errands : List Errand}
      {r : Run Controller SimulatedDevice (Except SessionError errand.Reply)} :
      errand.Performs w r → Course (r.state, r.link) errands w' →
      Course w (errand :: errands) w'

/-- A world that a new controller on some device can come to. -/
def Reachable (w : World) : Prop :=
  ∃ config device errands, Course (.new config, device) errands w

/-- A world after an errand with nothing around it. -/
def run (w : World) (errand : Errand) : World :=
  let r := Routine.run Controller.notify (errand.routine w.2.capabilities) w.1 w.2
  (r.state, r.link)

theorem Course.append {w w' w'' : World} {errands later : List Errand} (h : Course w errands w')
    (h' : Course w' later w'') : Course w (errands ++ later) w'' := by
  induction h with
  | stay => exact h'
  | happen incident _ ih => exact .happen incident (ih h')
  | perform hperforms _ ih => exact .perform hperforms (ih h')

theorem Reachable.perform {w : World} {errand : Errand}
    {r : Run Controller SimulatedDevice (Except SessionError errand.Reply)} (h : w.Reachable)
    (hperforms : errand.Performs w r) : Reachable (r.state, r.link) := by
  obtain ⟨config, device, errands, hcourse⟩ := h
  exact ⟨config, device, _, hcourse.append (.perform hperforms (.stay _))⟩

theorem Reachable.happen {w w' : World} (h : w.Reachable)
    (hhappens : Relation.ReflTransGen Happens w w') : w'.Reachable := by
  induction hhappens with
  | refl => exact h
  | tail _ hlast ih =>
    obtain ⟨config, device, errands, hcourse⟩ := ih
    obtain ⟨incident, rfl⟩ := hlast
    exact ⟨config, device, _, hcourse.append (.happen incident (.stay _))⟩

theorem Course.of_run (w : World) (errands : List Errand) :
    Course w errands (errands.foldl run w) := by
  induction errands generalizing w with
  | nil => exact .stay w
  | cons errand errands ih => exact .perform (outcome_run _ _) (ih _)

end World

namespace SimulatedDevice

theorem events_serve_queryHalt (d : SimulatedDevice) : (d.serve .queryHalt).events = [] := by
  unfold serve
  split
  · rfl
  · dsimp only
    split <;> rfl

theorem armed_serve_queryHalt (d : SimulatedDevice) :
    (d.serve .queryHalt).link.armed = d.armed := by
  unfold serve
  split
  · rfl
  · dsimp only
    split <;> rfl

theorem memory_serve_queryHalt (d : SimulatedDevice) :
    (d.serve .queryHalt).link.memory = d.memory := by
  unfold serve
  split
  · rfl
  · dsimp only
    split <;> rfl

theorem globalsAddress_serve_queryHalt (d : SimulatedDevice) :
    (d.serve .queryHalt).link.globalsAddress = d.globalsAddress := by
  unfold serve
  split
  · rfl
  · dsimp only
    split <;> rfl

end SimulatedDevice

namespace Controller

/-- A controller with `s` for its session. -/
def seat (s : Session) (c : Controller) : Controller :=
  { c with session := some s }

theorem notify_of_none {c : Controller} (h : c.session = none) (event : Event) :
    notify event c = c := by
  have hmap : ∀ f : Session → Session, { c with session := c.session.map f } = c := by
    intro f
    rw [h, Option.map_none, ← h]
  unfold notify
  split
  · cases haltPlace event.payload with
    | ok pc => exact hmap _
    | error _ => rfl
  · rfl

theorem notify_seat (event : Event) (s : Session) (c : Controller) :
    notify event (c.seat s) = c.seat (s.notify c.listening event) := by
  unfold notify Session.notify seat
  split
  · cases haltPlace event.payload <;> rfl
  · rfl

end Controller

namespace Session

theorem drift_refl (s : Session) : s.Drift s := by
  have h : s.Drift { s with latch := s.latch, observer := s.observer } := .mk _ _ (.inl rfl) id
  exact h

theorem drift_fulfill (s : Session) (pc : UInt32) : s.Drift (s.fulfill pc) := by
  have h : s.Drift { s with latch := (s.latch.fulfill pc).2, observer := s.observer } :=
    .mk _ _ (.inr ⟨.halted pc, nofun, rfl⟩) id
  exact h

theorem drift_notify (s : Session) (listening : Bool) (event : Event) :
    s.Drift (s.notify listening event) := by
  unfold notify
  split
  · cases haltPlace event.payload with
    | ok pc => exact s.drift_fulfill pc
    | error _ => exact s.drift_refl
  · exact s.drift_refl

end Session

namespace World

variable {c : Controller} {s : Session} {d : SimulatedDevice}

theorem serve_queryHalt_bench (w : World) (now : Nat) :
    (w.bench now).serve .queryHalt =
      ((w.2.serve .queryHalt).answer, bench (w.1, (w.2.serve .queryHalt).link) now) := by
  have hserve : (w.bench now).serve .queryHalt = ((w.2.serve .queryHalt).answer,
      (bench (w.1, (w.2.serve .queryHalt).link) now).deliver (w.2.serve .queryHalt).events) := rfl
  rw [hserve, w.2.events_serve_queryHalt]
  rfl

/-- The task that asks for halts changes the latch by firing it only. -/
theorem stirs_poll (c : Controller) (d : SimulatedDevice) (now : Nat) {interval : Nat}
    {stage : PollStage} (hobserver : s.observer = some (.poll interval stage)) :
    ∃ s' d', ofBench ((bench (c.seat s, d) now).poll interval stage) = (c.seat s', d') ∧
      Session.Stirs (s, d) (s', d') := by
  have hdrift : ∀ latch stage',
      (latch = s.latch ∨ ∃ outcome ≠ .superseded, latch = (s.latch.complete outcome).2) →
      s.Drift { s with latch, observer := some (.poll interval stage') } := by
    intro latch stage' hlatch
    exact .mk _ _ hlatch (by simp [hobserver])
  cases stage with
  | fresh => exact ⟨_, _, rfl, hdrift _ _ (.inl rfl), rfl, rfl, fun _ => rfl, rfl⟩
  | asleep due => exact ⟨_, _, rfl, hdrift _ _ (.inl rfl), rfl, rfl, fun _ => rfl, rfl⟩
  | ended => exact ⟨s, d, rfl, s.drift_refl, rfl, rfl, fun _ => rfl, rfl⟩
  | asking due answered =>
    have hserve := serve_queryHalt_bench (c.seat s, d) now
    have harmed := d.armed_serve_queryHalt
    have hmemory := d.memory_serve_queryHalt
    have hcell := d.globalsAddress_serve_queryHalt
    have hsilent : s.observer = none → (d.serve .queryHalt).link.log = d.log := by
      simp [hobserver]
    simp only [Bench.poll, hserve]
    -- What is answered decides how the latch fires, if it does.
    rcases (d.serve .queryHalt).answer with e | _ | pc
    · exact ⟨_, _, rfl, hdrift _ _ (.inr ⟨.failed e, nofun, rfl⟩), harmed, hmemory, hsilent, hcell⟩
    · exact ⟨_, _, rfl, hdrift _ _ (.inl rfl), harmed, hmemory, hsilent, hcell⟩
    · exact ⟨_, _, rfl, hdrift _ _ (.inr ⟨.halted pc, nofun, rfl⟩), harmed, hmemory, hsilent, hcell⟩

theorem after_haltNow (c : Controller) (d : SimulatedDevice) (pc : UInt32) :
    after (c, d) (.haltNow pc) =
      ((d.pausedEvents (some pc)).foldl (fun c e => c.notify e) c,
        { d with haltedAt := some pc }) := rfl

/-- Without a session nothing happens but to the device. -/
theorem after_of_none {c : Controller} (h : c.session = none) (d : SimulatedDevice)
    (incident : Incident) :
    ∃ d', after (c, d) incident = (c, d') ∧ d'.memory = d.memory ∧ d'.log = d.log := by
  cases incident with
  | queueHalt pc => exact ⟨_, rfl, rfl, rfl⟩
  | inject kind => exact ⟨_, rfl, rfl, rfl⟩
  | haltNow pc =>
    have hfold : ∀ events : List Event, events.foldl (fun c e => c.notify e) c = c := by
      intro events
      induction events with
      | nil => rfl
      | cons event events ih => rw [List.foldl_cons, Controller.notify_of_none h, ih]
    refine ⟨{ d with haltedAt := some pc }, ?_, rfl, rfl⟩
    rw [after_haltNow, hfold]
  | poll now => exact ⟨d, by simp [after, h], rfl, rfl⟩

/-- What happens to a world happens to its session and its device. -/
theorem stirs_after (c : Controller) (s : Session) (d : SimulatedDevice) (incident : Incident) :
    ∃ s' d', after (c.seat s, d) incident = (c.seat s', d') ∧ Session.Stirs (s, d) (s', d') := by
  cases incident with
  | queueHalt pc => exact ⟨s, _, rfl, s.drift_refl, rfl, rfl, fun _ => rfl, rfl⟩
  | inject kind => exact ⟨s, _, rfl, s.drift_refl, rfl, rfl, fun _ => rfl, rfl⟩
  | haltNow pc =>
    rw [after_haltNow, SimulatedDevice.pausedEvents]
    split
    case isTrue =>
      rw [List.foldl_cons, List.foldl_nil, Controller.notify_seat]
      exact ⟨_, _, rfl, s.drift_notify _ _, rfl, rfl, fun _ => rfl, rfl⟩
    case isFalse => exact ⟨s, _, rfl, s.drift_refl, rfl, rfl, fun _ => rfl, rfl⟩
  | poll now =>
    have hstay : ∃ s' d', ((c.seat s, d) : World) = (c.seat s', d') ∧
        Session.Stirs (s, d) (s', d') := ⟨s, d, rfl, s.drift_refl, rfl, rfl, fun _ => rfl, rfl⟩
    simp only [after, Controller.seat, Option.bind_some]
    split
    case h_1 interval stage hobserver => exact stirs_poll c d now hobserver
    case h_2 => exact hstay

end World

namespace Controller

variable {c : Controller} {d : SimulatedDevice}

theorem lodges_seat (c : Controller) :
    Lodges (δ := SimulatedDevice) (·.session) seat c (Session.notify c.listening) Session.Stirs
      notify World.Happens where
  get_put _ := rfl
  put_put _ _ := rfl
  notify_put event s := c.notify_seat event s
  happens_put := by
    rintro s d t d' ⟨incident, hafter⟩
    obtain ⟨s', d'', hseat, hstirs⟩ := World.stirs_after c s d incident
    rw [hseat] at hafter
    cases hafter
    exact ⟨s', rfl, hstirs⟩

/-- A controller after a call on its session. -/
def adopt {α δ : Type} (c : Controller) (run : Run Session δ (Except SessionError α)) :
    Run Controller δ (Except SessionError α) :=
  match run.result with
  | some result => ⟨some result, (c.seat run.state).settle result, run.link⟩
  | none => ⟨none, c.seat run.state, run.link⟩

/-- A call on the session is made on it alone, on any link on which the session stays in place. -/
theorem outcome_of_lodges {α δ : Type} [Link δ] {happens : Session × δ → Session × δ → Prop}
    {happens' : Controller × δ → Controller × δ → Prop}
    (l : Lodges (·.session) seat c (Session.notify c.listening) happens notify happens')
    {call : Routine Session α} {s : Session} {link : δ}
    {r : Run Controller δ (Except SessionError α)}
    (h : Outcome notify happens' (onSession call c) link r) (hsession : c.session = some s) :
    ∃ run, Outcome (Session.notify c.listening) happens (call s) link run ∧ r = c.adopt run := by
  unfold onSession at h
  simp only [hsession] at h
  obtain ⟨mid, hmid, hr⟩ := h.of_bind
  obtain ⟨run, hrun, rfl⟩ := l.of_within hmid
  refine ⟨run, hrun, ?_⟩
  rcases hresult : run.result with _ | result <;> simp only [hresult, adopt] at hr ⊢
  · exact hr
  · cases hr
    rfl

theorem outcome_of_session {α : Type} {call : Routine Session α} {s : Session}
    {r : Run Controller SimulatedDevice (Except SessionError α)}
    (h : Outcome notify World.Happens (onSession call c) d r) (hsession : c.session = some s) :
    ∃ run, Outcome (Session.notify c.listening) Session.Stirs (call s) d run ∧
      r = c.adopt run :=
  outcome_of_lodges (lodges_seat c) h hsession

/-- A call on the session is turned away if there is none, and else its controller adopts what comes
of it. -/
theorem outcome_onSession {α : Type} {call : Routine Session α}
    {r : Run Controller SimulatedDevice (Except SessionError α)}
    (h : Outcome notify World.Happens (onSession call c) d r) :
    c.session = none ∧ r = ⟨some (.error .noSession), c, d⟩ ∨
      ∃ s run, c.session = some s ∧
        Outcome (Session.notify c.listening) Session.Stirs (call s) d run ∧ r = c.adopt run := by
  cases hsession : c.session with
  | none =>
    unfold onSession at h
    simp only [hsession] at h
    cases h
    exact .inl ⟨rfl, rfl⟩
  | some s =>
    obtain ⟨run, hrun, hr⟩ := outcome_of_session h hsession
    exact .inr ⟨s, run, rfl, hrun, hr⟩

/-- A session stays in place on a link on which nothing happens by itself. -/
theorem lodges_alone {δ : Type} (c : Controller) :
    Lodges (δ := δ) (·.session) seat c (Session.notify c.listening) (fun _ _ => False) notify
      fun _ _ => False where
  get_put _ := rfl
  put_put _ _ := rfl
  notify_put event s := c.notify_seat event s
  happens_put _ _ _ _ h := h.elim

theorem run_onSession {α δ : Type} [Link δ] {link : δ} {call : Routine Session α} {s : Session}
    (h : c.session = some s) :
    Routine.run notify (onSession call) c link =
      c.adopt (Routine.run (Session.notify c.listening) call s link) := by
  have honSession : onSession call c = ((call s).within (·.session) seat c).bind
      fun result c => .done (c.settle result) result := by
    unfold onSession
    simp only [h]
    rfl
  unfold Routine.run
  rw [honSession, Call.run_bind, (lodges_alone c).run_within]
  unfold adopt Run.andThen
  rcases (Call.run (Session.notify c.listening) (call s) link).result with _ | result <;> rfl

end Controller

end BoardDebug
