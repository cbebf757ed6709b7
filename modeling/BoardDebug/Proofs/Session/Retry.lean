import BoardDebug.Proofs.Session.Slow

namespace BoardDebug

open Relation Routine

namespace Slow

variable {δ : Type} [Link δ]

/-- Waits for a halt that were dropped, each at some point, and what happened between them. -/
inductive Abandons : Controller × δ → List (Option Request) → Controller × δ → Prop where
  | rest (w : Controller × δ) : Abandons w [] w
  | happen {w w' w'' : Controller × δ} {points : List (Option Request)} :
      Happens w w' → Abandons w' points w'' → Abandons w points w''
  | drop {w w' w'' : Controller × δ} {point : Option Request} {points : List (Option Request)} :
      Call.Stops around (Controller.waitForHalt w.1) w.2 (.dropped point) w' →
      Abandons w' points w'' → Abandons w (point :: points) w''

variable {w w' w'' : Controller × δ} {s : Session}

theorem passes_session (hsession : w.1.session = some s) (h : (around (δ := δ)).Passes w w') :
    ∃ s', w'.1.session = some s' := by
  have hw : w = (w.1.seat s, w.2) := by rw [Controller.seat_of_session hsession]
  rw [hw] at h
  obtain ⟨s', d', rfl, -⟩ := (houses_seat w.1).passes h
  exact ⟨s', rfl⟩

/-- A wait that was dropped while it waited can be made again: what comes of it could have come of
the first one. -/
theorem stops_again {stop : Call.Stop (Except SessionError HaltMessage)}
    (hw : Has (·.phase = .armed) w) (hw' : Has (·.phase = .armed) w')
    (hpasses : (around (δ := δ)).Passes w w')
    (hstops : Call.Stops around (Controller.waitForHalt w'.1) w'.2 stop w'') :
    Call.Stops around (Controller.waitForHalt w.1) w.2 stop w'' := by
  obtain ⟨s, hsession, hphase⟩ := hw
  obtain ⟨s', hsession', hphase'⟩ := hw'
  obtain ⟨ready, next, hheeds, hcall⟩ := Controller.exists_heeds hsession hphase
  obtain ⟨ready', next', hheeds', hcall'⟩ := Controller.exists_heeds hsession' hphase'
  rw [hcall'] at hstops
  rw [hcall]
  cases hstops with
  | unwoken hpassed => exact .unwoken (hpasses.trans hpassed)
  | @woken _ _ _ _ outcome woken _ _ hpassed hready hrest =>
    -- Both calls see the same session when they are woken, and go on with it alike.
    obtain ⟨t, ht⟩ := passes_session hsession' hpassed
    rw [hheeds'.ready ht, ← hheeds.ready ht] at hready
    rw [hheeds'.next outcome ht, ← hheeds.next outcome ht] at hrest
    exact .woken (hpasses.trans hpassed) hready hrest

/-- To drop a wait while it waits is to let time pass. -/
theorem passes_of_dropped (hw : Has (·.phase = .armed) w)
    (hstops : Call.Stops around (Controller.waitForHalt w.1) w.2 (.dropped none) w') :
    (around (δ := δ)).Passes w w' := by
  obtain ⟨s, hsession, hphase⟩ := hw
  obtain ⟨ready, next, hheeds, hcall⟩ := Controller.exists_heeds hsession hphase
  rw [hcall] at hstops
  cases hstops with
  | unwoken hpassed => exact hpassed
  | @woken _ _ _ _ outcome woken _ _ hpassed hready hrest =>
    obtain ⟨t, ht⟩ := passes_session hsession hpassed
    rw [hheeds.next outcome ht] at hrest
    exact absurd rfl (hrest.ne_of_isDirect
      (Controller.isDirect_onSession (Session.isDirect_closeWait outcome) _))

/-- How a wait stops that is made on an armed session with its wait. -/
theorem stops_waitForHalt {stop : Call.Stop (Except SessionError HaltMessage)}
    (hsession : w.1.session = some s) (hs : s.Poised .armed)
    (hstops : Call.Stops around (Controller.waitForHalt w.1) w.2 stop w') :
    stop.Leaves (fun during w => Has (Session.Left during) w)
      (Returns (fun message w => s.Tells message ∧ w.1.phase = .paused) fun e _ => e.isTransport)
      w' := by
  refine (keeps_onSession (houses_seat w.1) hsession
    ((Session.slow_waitForHalt hs w.2).mono ?_ ?_)).of_stops hstops
  · exact fun during w hw => ⟨w.1, rfl, hw⟩
  · rintro (e | message) w hw
    · exact hw
    · exact ⟨hw.1, hw.2.1⟩

/-- How a wait stops that is made on an armed session that has lost its wait. -/
theorem stops_waitForHalt_of_slack {stop : Call.Stop (Except SessionError HaltMessage)}
    (hsession : w.1.session = some s) (hs : s.Slack .armed)
    (hstops : Call.Stops around (Controller.waitForHalt w.1) w.2 stop w') :
    stop.Leaves (fun during w => during = none ∧ Has (Session.Slack .armed) w)
      (fun result w => result = .error .superseded ∧ w.1.phase = .terminated) w' := by
  refine (keeps_onSession (houses_seat w.1) hsession
    ((Session.slow_waitForHalt_of_slack hs w.2).mono ?_ ?_)).of_stops hstops
  · exact fun during w hw => ⟨hw.1, w.1, rfl, hw.2⟩
  · rintro result w rfl
    exact ⟨rfl, rfl⟩

/-- What was dropped on a session that has lost its wait was dropped while it waited for nothing. -/
theorem Abandons.slack {points : List (Option Request)} (h : Abandons w points w')
    (hw : Has (Session.Slack .armed) w) : Has (Session.Slack .armed) w' := by
  induction h with
  | rest => exact hw
  | happen hhappens _ ih => exact ih (hw.happens (fun _ _ hdrift hs => hdrift.slack hs) hhappens)
  | drop hstops _ ih =>
    obtain ⟨s, hsession, hs⟩ := hw
    exact ih (stops_waitForHalt_of_slack hsession hs hstops).2

/-- While waits are dropped as they wait, the session keeps its wait, and only time passes. The
first one that is dropped later takes the wait away for good. -/
theorem Abandons.poised {points : List (Option Request)} (h : Abandons w points w')
    (hw : Has (Session.Poised .armed) w) :
    (∀ point ∈ points, point = none) ∧ (around (δ := δ)).Passes w w' ∧
        Has (Session.Poised .armed) w' ∨
      (¬∀ point ∈ points, point = none) ∧ Has (Session.Slack .armed) w' := by
  induction h with
  | rest => exact .inl ⟨nofun, .refl, hw⟩
  | happen hhappens _ ih =>
    obtain ⟨hpoints, hpasses, hpoised⟩ | hslack :=
      ih (hw.happens (fun _ _ hdrift hs => hdrift.poised hs) hhappens)
    · exact .inl ⟨hpoints, hpasses.head hhappens, hpoised⟩
    · exact .inr hslack
  | @drop w w₁ w₂ point points hstops hrest ih =>
    obtain ⟨s, hsession, hs⟩ := hw
    have hleft := stops_waitForHalt hsession hs hstops
    cases point with
    | some request =>
      -- The halt had been taken, and it is lost.
      exact .inr ⟨by simp, hrest.slack hleft⟩
    | none =>
      have hpassed := passes_of_dropped ⟨s, hsession, hs.1⟩ hstops
      obtain ⟨hpoints, hpasses, hpoised⟩ | ⟨hpoints, hslack⟩ := ih hleft
      · exact .inl ⟨by simpa using hpoints, hpassed.trans hpasses, hpoised⟩
      · exact .inr ⟨by simpa using hpoints, hslack⟩

theorem Reachable.poised_or_slack (h : Reachable w) (hphase : w.1.phase = .armed) :
    Has (Session.Poised .armed) w ∨ Has (Session.Slack .armed) w := by
  have hsound := h.sound
  cases hsession : w.1.session with
  | none =>
    rw [Controller.phase, hsession] at hphase
    exact absurd hphase hsound.rest
  | some s =>
    rw [Controller.phase_of_session hsession] at hphase
    exact ((hsound.session s hsession).armed hphase).imp (fun hs => ⟨s, hsession, hs⟩)
      fun hs => ⟨s, hsession, hs⟩

/-- Whether the wait of a run is in place, and later waits for it were dropped only as they
waited. -/
def KeepsWait (w : Controller × δ) (points : List (Option Request)) : Prop :=
  Has (·.wait.isSome) w ∧ ∀ point ∈ points, point = none

omit [Link δ] in
theorem Has.keepsWait (h : Has (Session.Poised .armed) w) : KeepsWait w [] := by
  obtain ⟨s, hsession, -, wait, hwait, -⟩ := h
  exact ⟨⟨s, hsession, by simp [hwait]⟩, nofun⟩

/-- A call that sets the device going leaves the wait of the run in place. -/
theorem keepsWait_of_launch {call : Routine Session Unit} {c : Controller} {s : Session} {d : δ}
    (hsession : c.session = some s)
    (hcall : (call s).Keeps (Session.slow c.listening) Session.Sounds
      (Returns (fun _ w => w.1.Poised .armed) fun _ w => w.1.Sound) d)
    (h : Call.Stops around (Controller.onSession call c) d (.finished (.ok ())) w) :
    KeepsWait w [] := by
  have hkeeps : (Controller.onSession call c).Keeps around (fun _ _ => True)
      (Returns (fun _ => Has (Session.Poised .armed)) fun _ _ => True) d := by
    refine keeps_onSession (houses_seat c) hsession (hcall.mono (fun _ _ _ => trivial) ?_)
    rintro (e | _) w hw
    · trivial
    · exact ⟨w.1, rfl, hw⟩
  have hpoised : Has (Session.Poised .armed) w := hkeeps.of_stops h
  exact hpoised.keepsWait

theorem keepsWait_of_start {has : Capabilities} {compiled : Except CompileError Program}
    (h : Call.Stops around (Controller.start has compiled w.1) w.2 (.finished (.ok ())) w') :
    KeepsWait w' [] := by
  rw [Controller.start_eq] at h
  cases hopening : Controller.opening has compiled w.1.config with
  | error e =>
    rw [hopening] at h
    cases h
  | ok begun =>
    obtain ⟨s, observer⟩ := begun
    obtain ⟨program, table, -, -, -, rfl⟩ := Controller.opening_ok hopening
    rw [hopening] at h
    exact keepsWait_of_launch rfl (Session.slow_flashAndArm _ _ ⟨rfl, rfl⟩) h

theorem keepsWait_of_step (hw : Reachable w) {into : Bool}
    (h : Call.Stops around (Controller.step into w.1) w.2 (.finished (.ok ())) w') :
    KeepsWait w' [] := by
  cases hsession : w.1.session with
  | none =>
    simp only [Controller.step, Controller.onSession, hsession] at h
    cases h
  | some s =>
    have hs : s.Sound := hw.sound.session s hsession
    exact keepsWait_of_launch hsession (Session.slow_step into _ _ hs) h

/-- Whether a wait tells of the halt that a wait of `w` that is not dropped may tell of, and leaves
the session paused. -/
def Retries (w : Controller × δ) (result : Except SessionError HaltMessage)
    (w' : Controller × δ) : Prop :=
  ∃ s message, w.1.session = some s ∧ result = .ok message ∧ s.Tells message ∧
    w'.1.phase = .paused ∧
    Call.Stops around (Controller.waitForHalt w.1) w.2 (.finished result) w'

/-- A wait for a halt that was dropped can be made again, if and only if it was dropped as it
waited: once the halt has been taken, it is lost with the call, and the next wait ends the
session. -/
theorem retried_iff {points : List (Option Request)} {result : Except SessionError HaltMessage}
    (h : Reachable w) (hphase : w.1.phase = .armed) (hdropped : Abandons w points w')
    (hlast : Call.Stops around (Controller.waitForHalt w'.1) w'.2 (.finished result) w'')
    (hlink : ∀ e, result = .error e → e.isTransport = false) :
    (Retries w result w'' ↔ KeepsWait w points) ∧
      (result = .error .superseded ∧ w''.1.phase = .terminated ↔ ¬KeepsWait w points) := by
  have hlost (hslack : Has (Session.Slack .armed) w') (hkeeps : ¬KeepsWait w points) :
      (Retries w result w'' ↔ KeepsWait w points) ∧
        (result = .error .superseded ∧ w''.1.phase = .terminated ↔ ¬KeepsWait w points) := by
    obtain ⟨s, hsession, hs⟩ := hslack
    have hstop := stops_waitForHalt_of_slack hsession hs hlast
    refine ⟨iff_of_false ?_ hkeeps, iff_of_true hstop hkeeps⟩
    rintro ⟨s, message, -, hresult, -⟩
    rw [hstop.1] at hresult
    cases hresult
  obtain hpoised | hslack := h.poised_or_slack hphase
  case inr =>
    refine hlost (hdropped.slack hslack) ?_
    rintro ⟨⟨s, hsession, hwait⟩, -⟩
    obtain ⟨t, ht, hs⟩ := hslack
    obtain rfl : s = t := Option.some.inj (hsession.symm.trans ht)
    simp [hs.2] at hwait
  obtain ⟨hpoints, hpasses, hpoised'⟩ | ⟨hpoints, hslack⟩ := hdropped.poised hpoised
  case inr => exact hlost hslack fun hkeeps => hpoints hkeeps.2
  obtain ⟨s, hsession, hs⟩ := hpoised
  obtain ⟨s', hsession', hs'⟩ := hpoised'
  have hkeeps : KeepsWait w points := by
    obtain ⟨-, wait, hwait, -⟩ := hs
    exact ⟨⟨s, hsession, by simp [hwait]⟩, hpoints⟩
  -- What comes of the last call could have come of the first one.
  have hfirst := stops_again ⟨s, hsession, hs.1⟩ ⟨s', hsession', hs'.1⟩ hpasses hlast
  have hstop := stops_waitForHalt hsession hs hfirst
  cases result with
  | error e =>
    have htransport : e.isTransport = true := hstop
    simp [hlink e rfl] at htransport
  | ok message =>
    refine ⟨iff_of_true ⟨s, message, hsession, rfl, hstop.1, hstop.2, hfirst⟩ hkeeps, ?_⟩
    exact iff_of_false (by simp) (not_not_intro hkeeps)

/-- A wait is dropped, the device halts, and the next wait tells of the halt. -/
theorem retried_sample :
    let idle : World := (.new .standard, .sample [])
    let begun := idle.run (.start (.ok .sample))
    let halted := (begun.run .waitForHalt).after (.haltNow 0x2100)
    ∃ result, KeepsWait begun [none] ∧ Retries begun result (halted.run .waitForHalt) := by
  intro idle begun halted
  have hbegins : (outcome idle (.start (.ok .sample))).map (·.toBool) = some true := by
    decide +kernel
  obtain ⟨_, hstart⟩ := stops_of_toBool hbegins
  have hbegun : Reachable begun := ⟨_, _, .single (.call (.start (.ok .sample)) hstart)⟩
  have hphase : begun.1.phase = .armed := by decide +kernel
  have hdropped : Abandons begun [none] halted := by
    have hwaits : (outcome begun .waitForHalt).isNone := by decide +kernel
    exact .drop (stops_of_isNone hwaits) (.happen (happens_after _ _) (.rest _))
  have htells : (outcome halted .waitForHalt).map (·.toBool) = some true := by decide +kernel
  obtain ⟨message, hlast⟩ := stops_of_toBool htells
  have hlaunched : Call.Stops around (Controller.start idle.2.capabilities (.ok .sample) idle.1)
      idle.2 (.finished (.ok ())) begun := hstart
  have hkeeps : KeepsWait begun [none] := ⟨(keepsWait_of_start hlaunched).1, by simp⟩
  exact ⟨_, hkeeps, (retried_iff hbegun hphase hdropped hlast nofun).1.2 hkeeps⟩

end Slow

/-- A wait is dropped while the device is asked for its globals area. The halt that it had taken is
lost, while a wait that is not dropped tells of it. -/
theorem Bench.halt_lost :
    let begun := ((Bench.new .standard (.new (.sample [0x2100])) .empty []).call 100
      (Errand.routine ⟨true, false⟩ (.start (.ok .sample)))).2
    let slow := { begun with
      rig := { begun.rig with latencies := Latencies.none.set 50 (.talk Opcode.getGlobals) } }
    let dropped := slow.call 10 Controller.waitForHalt
    let again := ({ dropped.2 with rig := { dropped.2.rig with latencies := .none } } : Bench).call
      100 Controller.waitForHalt
    Slow.Reachable slow.onRig ∧ slow.controller.phase = .armed ∧ dropped.1.isNone ∧
      again.1 = some (.error .superseded) ∧ again.2.controller.phase = .terminated ∧
      ∃ message, (slow.call 100 Controller.waitForHalt).1 = some (.ok message) ∧
        message.breakpointId = 1 := by
  intro begun slow dropped again
  have hbegun : Slow.Reachable begun.onRig :=
    reachable_call ⟨_, _, .refl⟩ 100 (.start (.ok .sample))
  have hslow : Slow.Reachable slow.onRig := by
    obtain ⟨config, rig, hleads⟩ := hbegun
    exact ⟨config, rig, hleads.tail (.happen (happens_refl _ _ _))⟩
  have hlost : again.1.map (Except.map fun _ => ()) = some (.error .superseded) := by
    decide +kernel
  have htold : (slow.call 100 Controller.waitForHalt).1.map (Except.map (·.breakpointId)) =
      some (.ok 1) := by
    decide +kernel
  refine ⟨hslow, by decide +kernel, by decide +kernel, ?_, by decide +kernel, ?_⟩
  · obtain ⟨error | message, hagain, herror⟩ := Option.map_eq_some_iff.1 hlost
    · rwa [← show error = SessionError.superseded from Except.error.inj herror]
    · cases herror
  · obtain ⟨error | message, htold, hmessage⟩ := Option.map_eq_some_iff.1 htold
    · cases hmessage
    · exact ⟨message, htold, Except.ok.inj hmessage⟩

end BoardDebug
