import BoardDebug.Proofs.Session.World

namespace BoardDebug

open Call

/-- A session is on the device in one piece, or there is none and no start is going on. -/
def World.AtRest (w : World) : Prop :=
  match w.1.session with
  | some s => s.AtRest w.2
  | none => w.1.restPhase = .idle ∨ w.1.restPhase = .terminated

theorem World.AtRest.of_session {w : World} {s : Session} (hw : w.AtRest)
    (hsession : w.1.session = some s) : s.AtRest w.2 := by
  simpa only [World.AtRest, hsession] using hw

namespace Controller

variable {c : Controller} {d : SimulatedDevice}

theorem phase_of_session {s : Session} (h : c.session = some s) : c.phase = s.phase := by
  simp only [phase, h]

/-- The session that a start begins with, and what observes its halts. -/
def opening (has : Capabilities) (compiled : Except CompileError Program) (config : SessionConfig) :
    Except SessionError (Session × Observer) :=
  match compiled with
  | .error error => .error (.compile error)
  | .ok program =>
    match BreakpointTable.ofList? program.breakpoints with
    | none => .error .noBreakpoints
    | some table =>
      match Observer.install has config.strategy config.pollInterval with
      | .error error => .error (.link error)
      | .ok observer => .ok (.new program table observer, observer)

/-- A controller that has nothing to start. -/
def giveUp (c : Controller) : Controller :=
  { c with session := none, restPhase := .terminated }

/-- A controller at the beginning of a session. -/
def embark (c : Controller) (s : Session) (observer : Observer) : Controller :=
  { c with
    restPhase := .starting
    session := some s
    listening := c.listening || observer == .push }

/-- A start on a device goes wrong before it makes a request, or it begins a session. -/
theorem start_eq (has : Capabilities) (compiled : Except CompileError Program) (c : Controller) :
    start has compiled c =
      match opening has compiled c.config with
      | .error error => .done c.giveUp (.error error)
      | .ok (s, observer) => onSession Session.flashAndArm (c.embark s observer) := by
  unfold opening
  rcases compiled with error | program
  · rfl
  dsimp only
  cases htable : BreakpointTable.ofList? program.breakpoints with
  | none =>
    simp only [start, htable]
    rfl
  | some table =>
    simp only [start, htable]
    -- The configuration is that of `c`, whatever the steps before have set.
    change (match Observer.install has c.config.strategy c.config.pollInterval with
      | .error error => start.giveUp (.link error)
      | .ok observer => do
        modify fun c =>
          { c with
            session := some (.new program table observer)
            listening := c.listening || observer == .push }
        onSession Session.flashAndArm : Routine Controller Unit) _ = _
    cases Observer.install has c.config.strategy c.config.pollInterval <;> rfl

/-- A call left a world at rest, or it failed and was not turned away. -/
def Settles {α : Type} (r : Run Controller SimulatedDevice (Except SessionError α)) : Prop :=
  World.AtRest (r.state, r.link) ∧
    ∀ e, r.result = some (.error e) → e.isHarmless = false ∧ e ≠ .superseded

/-- A call was turned away: there is no session, or one in another phase. -/
def Refuses {α : Type} (c : Controller) (d : SimulatedDevice)
    (r : Run Controller SimulatedDevice (Except SessionError α)) : Prop :=
  ∃ e, (e = .noSession ∨ ∃ expected, c.phase ≠ expected ∧ e = .wrongPhase expected c.phase) ∧
    r = ⟨some (.error e), c, d⟩

theorem seat_of_session {s : Session} (h : c.session = some s) : c.seat s = c := by
  unfold seat
  rw [← h]

theorem atRest_seat_terminate (c : Controller) (s : Session) (d : SimulatedDevice) :
    World.AtRest (c.seat s.terminate, d) :=
  .terminated rfl s.closed_terminate

/-- A call on a session that settles it settles its controller: a failure ends the session. -/
theorem settles_adopt {α : Type} {run : Run Session SimulatedDevice (Except SessionError α)}
    (h : Session.Settles run) (c : Controller) : Settles (c.adopt run) := by
  obtain ⟨result, s, d⟩ := run
  rcases result with _ | e | a
  · refine ⟨h, ?_⟩
    rintro e he
    cases he
  · have hsettle : (c.seat s).settle (.error e : Except SessionError α) = c.seat s.terminate := by
      simp only [settle, h.1]
      rfl
    refine ⟨?_, ?_⟩
    · simp only [adopt, hsettle]
      exact c.atRest_seat_terminate s d
    · rintro e' he
      cases he
      exact h
  · refine ⟨h, ?_⟩
    rintro e he
    cases he

theorem result_adopt {α : Type} (c : Controller)
    (run : Run Session SimulatedDevice (Except SessionError α)) :
    (c.adopt run).result = run.result := by
  obtain ⟨_ | result, s, d⟩ := run <;> rfl

theorem refuses_adopt {α : Type} {s : Session}
    {run : Run Session SimulatedDevice (Except SessionError α)} (h : s.Refuses d run)
    (hsession : c.session = some s) : c.Refuses d (c.adopt run) := by
  obtain ⟨expected, hphase, rfl⟩ := h
  have hcontroller : c.phase = s.phase := phase_of_session hsession
  refine ⟨_, .inr ⟨expected, hcontroller ▸ hphase, rfl⟩, ?_⟩
  rw [hcontroller, adopt, seat_of_session hsession]
  rfl

/-- A call on the session at rest, if it may be made at all, leaves the world at rest. -/
theorem settles_onSession {α : Type} {call : Routine Session α}
    {r : Run Controller SimulatedDevice (Except SessionError α)}
    (h : Outcome notify World.Happens (onSession call c) d r) (hw : World.AtRest (c, d))
    (hcall : ∀ s run, s.AtRest d →
      Outcome (Session.notify c.listening) Session.Stirs (call s) d run →
      s.Refuses d run ∨ Session.Settles run) :
    c.Refuses d r ∨ Settles r := by
  obtain ⟨-, rfl⟩ | ⟨s, run, hsession, hrun, rfl⟩ := outcome_onSession h
  · exact .inl ⟨_, .inl rfl, rfl⟩
  · obtain hrefuses | hsettles := hcall s run (hw.of_session hsession) hrun
    · exact .inl (refuses_adopt hrefuses hsession)
    · exact .inr (settles_adopt hsettles c)

theorem opening_ok {has : Capabilities} {compiled : Except CompileError Program}
    {config : SessionConfig} {s : Session} {observer : Observer}
    (h : opening has compiled config = .ok (s, observer)) :
    ∃ program table, compiled = .ok program ∧
      BreakpointTable.ofList? program.breakpoints = some table ∧
      Observer.install has config.strategy config.pollInterval = .ok observer ∧
      s = .new program table observer := by
  unfold opening at h
  split at h
  · cases h
  · split at h
    · cases h
    · split at h <;> cases h
      exact ⟨_, _, rfl, ‹_›, ‹_›, rfl⟩

/-- What goes wrong before a session begins. -/
theorem opening_error {has : Capabilities} {compiled : Except CompileError Program}
    {config : SessionConfig} {e : SessionError} (h : opening has compiled config = .error e) :
    (∃ error, compiled = .error error ∧ e = .compile error) ∨ e = .noBreakpoints ∨
      ∃ error, Observer.install has config.strategy config.pollInterval = .error error ∧
        e = .link error := by
  unfold opening at h
  split at h
  · cases h
    exact .inl ⟨_, rfl, rfl⟩
  · split at h
    · cases h
      exact .inr (.inl rfl)
    · split at h <;> cases h
      exact .inr (.inr ⟨_, ‹_›, rfl⟩)

variable {has : Capabilities} {compiled : Except CompileError Program}

section Start

variable {r : Run Controller SimulatedDevice (Except SessionError Unit)}

/-- A start gives up, or it takes over the session that it has begun. -/
theorem outcome_start (h : Outcome notify World.Happens (start has compiled c) d r) :
    (∃ e, opening has compiled c.config = .error e ∧ r = ⟨some (.error e), c.giveUp, d⟩) ∨
      ∃ s observer run, opening has compiled c.config = .ok (s, observer) ∧
        Outcome (Session.notify (c.embark s observer).listening) Session.Stirs
          (Session.flashAndArm s) d run ∧ r = (c.embark s observer).adopt run := by
  rw [start_eq] at h
  cases hopening : opening has compiled c.config with
  | error e =>
    simp only [hopening] at h
    cases h
    exact .inl ⟨e, rfl, rfl⟩
  | ok begun =>
    obtain ⟨s, observer⟩ := begun
    simp only [hopening] at h
    obtain ⟨run, hrun, hr⟩ := outcome_of_session h rfl
    exact .inr ⟨s, observer, run, rfl, hrun, hr⟩

theorem settles_start (h : Outcome notify World.Happens (start has compiled c) d r) :
    Settles r := by
  obtain ⟨e, hopening, rfl⟩ | ⟨s, observer, run, hopening, hrun, rfl⟩ := outcome_start h
  · refine ⟨.inr rfl, ?_⟩
    rintro e' he
    cases he
    obtain ⟨_, -, rfl⟩ | rfl | ⟨_, -, rfl⟩ := opening_error hopening <;> exact ⟨rfl, nofun⟩
  · obtain ⟨program, table, -, -, -, rfl⟩ := opening_ok hopening
    exact settles_adopt (Session.settles_flashAndArm hrun rfl rfl) _

theorem armed_start (h : Outcome notify World.Happens (start has compiled c) d r)
    (hr : r.result = some (.ok ())) : ∃ s, r.state.session = some s ∧ s.phase = .armed := by
  obtain ⟨e, -, rfl⟩ | ⟨s, observer, run, -, hrun, rfl⟩ := outcome_start h
  · cases hr
  · have hrun' : run.result = some (.ok ()) := (result_adopt _ run).symm.trans hr
    refine ⟨run.state, ?_, Session.armed_flashAndArm hrun hrun'⟩
    simp only [adopt, hrun']
    rfl

end Start

theorem settles_waitForHalt {r : Run Controller SimulatedDevice (Except SessionError HaltMessage)}
    (h : Outcome notify World.Happens (waitForHalt c) d r) (hw : World.AtRest (c, d)) :
    c.Refuses d r ∨ Settles r := by
  refine settles_onSession h hw fun s run hs hrun => ?_
  by_cases hphase : s.phase = .armed
  · exact .inr (Session.settles_waitForHalt hrun hs hphase)
  · exact .inl (Session.refuses_waitForHalt hrun hphase)

theorem settles_startDebug {r : Run Controller SimulatedDevice (Except SessionError HaltMessage)}
    (h : Outcome notify World.Happens (startDebug has compiled c) d r) : Settles r := by
  obtain ⟨begun, hbegun, hr⟩ := Routine.outcome_bind h
  have hsettles := settles_start hbegun
  rcases hresult : begun.result with _ | e | u <;> simp only [hresult] at hr
  · subst hr
    exact ⟨hsettles.1, nofun⟩
  · subst hr
    refine ⟨hsettles.1, ?_⟩
    rintro e' he
    cases he
    exact hsettles.2 e hresult
  · -- The session that has begun is armed, so the wait is not turned away.
    obtain ⟨s, hsession, hphase⟩ := armed_start hbegun hresult
    obtain ⟨run, hrun, rfl⟩ := outcome_of_session hr hsession
    have hs : s.AtRest begun.link := hsettles.1.of_session hsession
    exact settles_adopt (Session.settles_waitForHalt hrun hs hphase) _

end Controller

/-- An errand on a world at rest is turned away, or it leaves the world at rest. -/
theorem Errand.settles {errand : Errand} {w : World}
    {r : Run Controller SimulatedDevice (Except SessionError errand.Reply)}
    (h : errand.Performs w r) (hw : w.AtRest) : w.1.Refuses w.2 r ∨ Controller.Settles r := by
  cases errand with
  | start compiled => exact .inr (Controller.settles_start h)
  | startDebug compiled => exact .inr (Controller.settles_startDebug h)
  | waitForHalt => exact Controller.settles_waitForHalt h hw
  | step into =>
    exact Controller.settles_onSession h hw fun _ _ hs hrun => Session.settles_step hrun hs
  | handle command =>
    exact Controller.settles_onSession h hw fun _ _ hs hrun => Session.settles_step hrun hs
  | writeStatus status =>
    exact Controller.settles_onSession h hw fun _ _ hs hrun =>
      .inr (Session.settles_writeStatus hrun hs)
  | finish =>
    cases h
    exact .inr ⟨.inl rfl, nofun⟩

namespace World

variable {w w' : World}

theorem AtRest.perform {errand : Errand}
    {r : Run Controller SimulatedDevice (Except SessionError errand.Reply)} (hw : w.AtRest)
    (h : errand.Performs w r) : AtRest (r.state, r.link) := by
  obtain ⟨e, -, rfl⟩ | hsettles := errand.settles h hw
  · exact hw
  · exact hsettles.1

theorem AtRest.after (hw : w.AtRest) (incident : Incident) : (w.after incident).AtRest := by
  obtain ⟨c, d⟩ := w
  cases hsession : c.session with
  | none =>
    obtain ⟨d', hafter, -, -⟩ := after_of_none hsession d incident
    rw [hafter]
    simpa only [AtRest, hsession] using hw
  | some s =>
    obtain ⟨s', d', hafter, hstirs⟩ := stirs_after c s d incident
    rw [Controller.seat_of_session hsession] at hafter
    rw [hafter]
    exact hstirs.atRest (hw.of_session hsession)

theorem Course.atRest {errands : List Errand} (h : Course w errands w') (hw : w.AtRest) :
    w'.AtRest := by
  induction h with
  | stay => exact hw
  | happen incident _ ih => exact ih (hw.after incident)
  | perform hperforms _ ih => exact ih (hw.perform hperforms)

theorem Reachable.atRest (h : w.Reachable) : w.AtRest := by
  obtain ⟨config, device, errands, hcourse⟩ := h
  exact hcourse.atRest (.inl rfl)

end World

end BoardDebug

namespace BoardDebug

open Call

namespace World

variable {w : World}

theorem AtRest.phase (hw : w.AtRest) :
    w.1.phase = .idle ∨ w.1.phase = .armed ∨ w.1.phase = .paused ∨ w.1.phase = .terminated := by
  cases hsession : w.1.session with
  | none =>
    simp only [AtRest, hsession] at hw
    simp only [Controller.phase, hsession]
    obtain hidle | hterminated := hw
    · exact .inl hidle
    · exact .inr (.inr (.inr hterminated))
  | some s =>
    rw [Controller.phase_of_session hsession]
    cases hw.of_session hsession with
    | armed phase => exact .inr (.inl phase)
    | paused phase => exact .inr (.inr (.inl phase))
    | terminated phase => exact .inr (.inr (.inr phase))

/-- A controller that is armed or paused has a session, which is so too. -/
theorem AtRest.exists_session (hw : w.AtRest)
    (hphase : w.1.phase = .armed ∨ w.1.phase = .paused) :
    ∃ s, w.1.session = some s ∧ s.AtRest w.2 ∧ s.phase = w.1.phase := by
  cases hsession : w.1.session with
  | none =>
    simp only [Controller.phase, hsession] at hphase
    simp only [AtRest, hsession] at hw
    obtain hidle | hterminated := hw
    · simp [hidle] at hphase
    · simp [hterminated] at hphase
  | some s => exact ⟨s, rfl, hw.of_session hsession, (Controller.phase_of_session hsession).symm⟩

theorem AtRest.closed (hw : w.AtRest) (hphase : w.1.phase = .terminated) {s : Session}
    (hsession : w.1.session = some s) : s.Closed :=
  (hw.of_session hsession).closed ((Controller.phase_of_session hsession).symm.trans hphase)

/-- Between the calls of any run, whatever happens around them, a controller is in one of four
phases and its session is in one piece. So no wait is passed over, and no step is turned away from a
session that is paused. -/
theorem reachable_invariant (h : w.Reachable) :
    (w.1.phase = .idle ∨ w.1.phase = .armed ∨ w.1.phase = .paused ∨ w.1.phase = .terminated) ∧
    (w.1.phase = .armed → ∃ s, w.1.session = some s ∧ s.wait.isSome ∧ s.pending = w.2.armed) ∧
    (w.1.phase = .paused → ∃ s, w.1.session = some s ∧
      (∃ b ∈ s.table.toList, s.current = some b) ∧ s.pending = [] ∧ s.wait = none ∧
      s.latch.isArmed = false ∧ s.area.isSome ∧ s.status.isSome) ∧
    (w.1.phase = .terminated → ∀ s, w.1.session = some s →
      s.wait = none ∧ s.observer = none ∧ s.latch.isArmed = false) ∧
    ∀ (errand : Errand) (r : Run Controller SimulatedDevice (Except SessionError errand.Reply)),
      errand.Performs w r → r.result ≠ some (.error .superseded) ∧
        ∀ phase, r.result ≠ some (.error (.wrongPhase phase phase)) := by
  have hw := h.atRest
  refine ⟨hw.phase, fun hphase => ?_, fun hphase => ?_, fun hphase s hsession => ?_,
    fun errand r hperforms => ?_⟩
  · obtain ⟨s, hsession, hs, hsphase⟩ := hw.exists_session (.inl hphase)
    obtain ⟨hrunning, hpending⟩ := hs.running (hsphase.trans hphase)
    obtain ⟨wait, hwait, -⟩ := hrunning.serves
    exact ⟨s, hsession, by simp [hwait], hpending⟩
  · obtain ⟨s, hsession, hs, hsphase⟩ := hw.exists_session (.inr hphase)
    have hhalted := hs.halted (hsphase.trans hphase)
    exact ⟨s, hsession, hhalted.current, hhalted.pending, hhalted.wait, hhalted.unarmed,
      hhalted.area, hhalted.status⟩
  · have hclosed := hw.closed hphase hsession
    exact ⟨hclosed.wait, hclosed.observer, hclosed.unarmed⟩
  · obtain ⟨e, he, rfl⟩ | hsettles := errand.settles hperforms hw
    · obtain rfl | ⟨expected, hne, rfl⟩ := he
      · exact ⟨nofun, nofun⟩
      · refine ⟨nofun, fun phase hphase => ?_⟩
        cases hphase
        exact hne rfl
    · refine ⟨fun hr => (hsettles.2 _ hr).2 rfl, fun phase hr => ?_⟩
      exact absurd (hsettles.2 _ hr).1 nofun

/-- A program that has halted at its entry breakpoint is paused in one piece. -/
theorem paused_invariant :
    ∃ w : World, w.Reachable ∧ w.1.phase = .paused ∧ ∃ s, w.1.session = some s ∧
      (∃ b ∈ s.table.toList, s.current = some b) ∧ s.pending = [] ∧ s.wait = none ∧
      s.latch.isArmed = false ∧ s.area.isSome ∧ s.status.isSome := by
  let begun : World := (.new .standard, .sample [0x2100])
  have hreachable : (begun.run (.startDebug (.ok .sample))).Reachable :=
    ⟨_, _, _, Course.of_run begun [.startDebug (.ok .sample)]⟩
  have hphase : (begun.run (.startDebug (.ok .sample))).1.phase = .paused := by decide +kernel
  exact ⟨_, hreachable, hphase, (reachable_invariant hreachable).2.2.1 hphase⟩

end World

end BoardDebug
