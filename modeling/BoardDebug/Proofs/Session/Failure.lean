import BoardDebug.Proofs.Session.Errands

namespace BoardDebug

open Call

namespace SessionError

/-- A call is not possible as things stand. -/
def IsRefusal (e : SessionError) : Prop :=
  e = .noSession ∨ ∃ expected actual, e = .wrongPhase expected actual

/-- A start goes wrong for a reason that lies in the program or in the settings. -/
def IsEarly (e : SessionError) : Prop :=
  (∃ error, e = .compile error) ∨ e = .noBreakpoints ∨ e = .noEntryBreakpoint ∨
    ∃ feature, e = .link (.unsupported feature)

theorem isHarmless_iff (e : SessionError) : e.isHarmless ↔ e.IsRefusal := by
  cases e <;> simp [isHarmless, IsRefusal]

end SessionError

namespace Session

variable {s : Session} {d : SimulatedDevice} {listening : Bool}

/-- A harmless failure of a call left everything as it was. -/
def Spares {α : Type} (s : Session) (d : SimulatedDevice)
    (r : Run Session SimulatedDevice (Except SessionError α)) : Prop :=
  ∀ e, r.result = some (.error e) → e.isHarmless → r.state = s ∧ r.link = d

theorem spares_of_ends {α : Type} {r : Run Session SimulatedDevice (Except SessionError α)}
    {ok : α → Session → SimulatedDevice → Prop}
    (h : r.Ends ok fun e _ _ => e.isHarmless = false) : s.Spares d r := by
  intro e he hharmless
  have hnot : e.isHarmless = false := h.of_error he
  simp [hnot] at hharmless

theorem Refuses.spares {α : Type} {r : Run Session SimulatedDevice (Except SessionError α)}
    (h : s.Refuses d r) : s.Spares d r := by
  obtain ⟨expected, -, rfl⟩ := h
  exact fun _ _ _ => ⟨rfl, rfl⟩

theorem not_harmless_of_flashAndArm
    {r : Run Session SimulatedDevice (Except SessionError Unit)}
    (h : Outcome (notify listening) Stirs (flashAndArm s) d r) {e : SessionError}
    (he : r.result = some (.error e)) : e.isHarmless = false := by
  rw [h.eq_run (isDirect_flashAndArm s)] at he
  obtain ⟨rfl, -, -⟩ | hbreaks := (ends_flashAndArm s d).of_error he
  · rfl
  · exact (not_harmless_of_breaks hbreaks).1

/-- What comes of a status that is to be written, whatever happens around. -/
theorem ends_outcome_writeStatus {status : DebugStatus}
    {r : Run Session SimulatedDevice (Except SessionError Bool)}
    (h : Outcome (notify listening) Stirs (writeStatus status s) d r) :
    r.Ends (fun _ s' d' => s' = s.mark status d ∧ d' = d.mark s status)
      fun e _ d' => s.status ≠ some status ∧ d.Breaks e ∧ d.log.length < d'.log.length := by
  rw [h.eq_run (isDirect_writeStatus status s)]
  exact (ends_writeStatus s d status).mono (fun _ _ _ h => h.2) fun _ _ _ h => h

theorem spares_writeStatus {status : DebugStatus}
    {r : Run Session SimulatedDevice (Except SessionError Bool)}
    (h : Outcome (notify listening) Stirs (writeStatus status s) d r) : s.Spares d r :=
  spares_of_ends ((ends_outcome_writeStatus h).mono (fun _ _ _ h => h)
    fun _ _ _ hbad => (not_harmless_of_breaks hbad.2.1).1)

theorem spares_step {into : Bool} {r : Run Session SimulatedDevice (Except SessionError Unit)}
    (h : Outcome (notify listening) Stirs (step into s) d r) : s.Spares d r := by
  rw [h.eq_run (isDirect_step into s)]
  by_cases hphase : s.phase = .paused
  case neg =>
    have hrun : (step into s).run (notify listening) d =
        ⟨some (.error (.wrongPhase .paused s.phase)), s, d⟩ := run_step_of_ne hphase into
    rw [hrun]
    exact fun _ _ _ => ⟨rfl, rfl⟩
  case pos =>
    cases hcurrent : s.current with
    | none =>
      have hrun : (step into s).run (notify listening) d =
          ⟨some (.error (.wrongPhase .paused s.phase)), s, d⟩ :=
        run_step_of_none hphase hcurrent into
      rw [hrun]
      exact fun _ _ _ => ⟨rfl, rfl⟩
    | some current =>
      exact spares_of_ends ((ends_step hphase hcurrent into).mono (fun _ _ _ h => h)
        fun e _ _ hbreaks => (not_harmless_of_breaks hbreaks).1)

/-- A wait of an armed session is not turned away. -/
theorem not_harmless_of_armed {r : Run Session SimulatedDevice (Except SessionError HaltMessage)}
    (h : Outcome (notify listening) Stirs (waitForHalt s) d r) (hphase : s.phase = .armed)
    {e : SessionError} (he : r.result = some (.error e)) : e.isHarmless = false := by
  obtain ⟨s', d', -, rfl | ⟨outcome, -, rfl⟩⟩ := outcome_waitForHalt h hphase
  · cases he
  · cases outcome with
    | superseded =>
      cases he
      rfl
    | failed error =>
      cases he
      rfl
    | halted pc =>
      have hbreaks := (ends_halted s'.dropWait d' pc).of_error he
      exact (not_harmless_of_breaks hbreaks).1

theorem spares_waitForHalt {r : Run Session SimulatedDevice (Except SessionError HaltMessage)}
    (h : Outcome (notify listening) Stirs (waitForHalt s) d r) : s.Spares d r := by
  by_cases hphase : s.phase = .armed
  · intro e he hharmless
    have hnot := not_harmless_of_armed h hphase he
    simp [hnot] at hharmless
  · exact (refuses_waitForHalt h hphase).spares

theorem phase_writeStatus {status : DebugStatus}
    {r : Run Session SimulatedDevice (Except SessionError Bool)}
    (h : Outcome (notify listening) Stirs (writeStatus status s) d r) {written : Bool}
    (hr : r.result = some (.ok written)) : r.state.phase = s.phase := by
  obtain ⟨hstate, -⟩ := (ends_outcome_writeStatus h).of_ok hr
  rw [hstate]
  unfold mark
  split <;> rfl

end Session

namespace Controller

variable {c : Controller} {d : SimulatedDevice}

/-- A harmless failure of a call left everything as it was; any other one ended the session. -/
def Fails {α : Type} (c : Controller) (d : SimulatedDevice)
    (r : Run Controller SimulatedDevice (Except SessionError α)) : Prop :=
  ∀ e, r.result = some (.error e) →
    e.isHarmless = true ∧ r.state = c ∧ r.link = d ∨
      e.isHarmless = false ∧ r.state.phase = .terminated ∧
        ∀ s, r.state.session = some s → s.Closed

theorem adopt_of_error {α : Type} {run : Run Session SimulatedDevice (Except SessionError α)}
    {e : SessionError} (h : run.result = some (.error e)) (c : Controller) :
    c.adopt run = ⟨some (.error e),
      if e.isHarmless then c.seat run.state else c.seat run.state.terminate, run.link⟩ := by
  obtain ⟨result, s, d⟩ := run
  cases h
  simp only [adopt, settle]
  rfl

/-- Any failure of a call but a harmless one ends the session. -/
theorem fails_adopt_of_not_harmless {α : Type}
    {run : Run Session SimulatedDevice (Except SessionError α)}
    (h : ∀ e, run.result = some (.error e) → e.isHarmless = false) (c' : Controller) :
    c.Fails d (c'.adopt run) := by
  intro e he
  rw [result_adopt] at he
  have hnot := h e he
  refine .inr ⟨hnot, ?_⟩
  rw [adopt_of_error he, if_neg (by simp [hnot])]
  refine ⟨rfl, ?_⟩
  rintro s hs
  cases hs
  exact Session.closed_terminate _

theorem fails_adopt {α : Type} {s : Session}
    {run : Run Session SimulatedDevice (Except SessionError α)} (h : s.Spares d run)
    (hsession : c.session = some s) : c.Fails d (c.adopt run) := by
  intro e he
  have hrun : run.result = some (.error e) := (result_adopt c run).symm.trans he
  by_cases hharmless : e.isHarmless
  · obtain ⟨hstate, hlink⟩ := h e hrun hharmless
    rw [adopt_of_error hrun, if_pos hharmless, hstate, seat_of_session hsession]
    exact .inl ⟨hharmless, rfl, hlink⟩
  · have hnot : ∀ e', run.result = some (.error e') → e'.isHarmless = false := by
      intro e' he'
      rw [hrun] at he'
      cases he'
      simpa using hharmless
    exact fails_adopt_of_not_harmless hnot c e he

theorem fails_onSession {α : Type} {call : Routine Session α}
    {r : Run Controller SimulatedDevice (Except SessionError α)}
    (h : Outcome notify World.Happens (onSession call c) d r)
    (hcall : ∀ s run, Outcome (Session.notify c.listening) Session.Stirs (call s) d run →
      s.Spares d run) : c.Fails d r := by
  obtain ⟨-, rfl⟩ | ⟨s, run, hsession, hrun, rfl⟩ := outcome_onSession h
  · rintro e he
    cases he
    exact .inl ⟨rfl, rfl, rfl⟩
  · exact fails_adopt (hcall s run hrun) hsession

variable {has : Capabilities} {compiled : Except CompileError Program}

theorem fails_start {r : Run Controller SimulatedDevice (Except SessionError Unit)}
    (h : Outcome notify World.Happens (start has compiled c) d r) : c.Fails d r := by
  obtain ⟨e, hopening, rfl⟩ | ⟨s, observer, run, -, hrun, rfl⟩ := outcome_start h
  · rintro e' he
    cases he
    have hnot : e.isHarmless = false := by
      obtain ⟨_, -, rfl⟩ | rfl | ⟨_, -, rfl⟩ := opening_error hopening <;> rfl
    refine .inr ⟨hnot, rfl, ?_⟩
    intro s hs
    have hnone : (none : Option Session) = some s := hs
    cases hnone
  · exact fails_adopt_of_not_harmless (fun e => Session.not_harmless_of_flashAndArm hrun) _

theorem fails_startDebug {r : Run Controller SimulatedDevice (Except SessionError HaltMessage)}
    (h : Outcome notify World.Happens (startDebug has compiled c) d r) : c.Fails d r := by
  obtain ⟨begun, hbegun, hr⟩ := Routine.outcome_bind h
  rcases hresult : begun.result with _ | e | u <;> simp only [hresult] at hr
  · subst hr
    exact nofun
  · subst hr
    rintro e' he
    cases he
    exact fails_start hbegun e hresult
  · obtain ⟨s, hsession, hphase⟩ := armed_start hbegun hresult
    obtain ⟨run, hrun, rfl⟩ := outcome_of_session hr hsession
    exact fails_adopt_of_not_harmless (fun e => Session.not_harmless_of_armed hrun hphase) _

end Controller

theorem Errand.fails {errand : Errand} {w : World}
    {r : Run Controller SimulatedDevice (Except SessionError errand.Reply)}
    (h : errand.Performs w r) : w.1.Fails w.2 r := by
  cases errand with
  | start compiled => exact Controller.fails_start h
  | startDebug compiled => exact Controller.fails_startDebug h
  | waitForHalt => exact Controller.fails_onSession h fun _ _ => Session.spares_waitForHalt
  | step into => exact Controller.fails_onSession h fun _ _ => Session.spares_step
  | handle command => exact Controller.fails_onSession h fun _ _ => Session.spares_step
  | writeStatus status => exact Controller.fails_onSession h fun _ _ => Session.spares_writeStatus
  | finish =>
    cases h
    exact nofun

namespace Controller

variable {c : Controller} {d : SimulatedDevice}

/-- There is no session, or one that failed. -/
def IsDown (c : Controller) : Prop :=
  ∀ s, c.session = some s → s.phase = .terminated

theorem IsDown.refuses {α : Type} {call : Routine Session α}
    {r : Run Controller SimulatedDevice (Except SessionError α)} (hc : c.IsDown)
    (h : Outcome notify World.Happens (onSession call c) d r)
    (hcall : ∀ s run, s.phase = .terminated →
      Outcome (Session.notify c.listening) Session.Stirs (call s) d run → s.Refuses d run) :
    c.Refuses d r := by
  obtain ⟨-, rfl⟩ | ⟨s, run, hsession, hrun, rfl⟩ := outcome_onSession h
  · exact ⟨_, .inl rfl, rfl⟩
  · exact refuses_adopt (hcall s run (hc s hsession) hrun) hsession

theorem isDown_of_none (h : c.session = none) : c.IsDown := by
  intro s hs
  rw [h] at hs
  cases hs

theorem isDown_seat {s : Session} (h : s.phase = .terminated) (c : Controller) :
    (c.seat s).IsDown := by
  intro s' hs
  cases hs
  exact h

theorem IsDown.writeStatus {status : DebugStatus}
    {r : Run Controller SimulatedDevice (Except SessionError Bool)} (hc : c.IsDown)
    (h : Outcome notify World.Happens (writeStatus status c) d r) : r.state.IsDown := by
  obtain ⟨-, rfl⟩ | ⟨s, run, hsession, hrun, rfl⟩ := outcome_onSession h
  · exact hc
  · have hphase := hc s hsession
    rcases hresult : run.result with _ | e | written
    · have hends := Session.ends_outcome_writeStatus hrun
      simp [Run.Ends, hresult] at hends
    · have hspares := Session.spares_writeStatus hrun e hresult
      rw [adopt_of_error hresult]
      split
      case isTrue hharmless => exact isDown_seat ((hspares hharmless).1 ▸ hphase) c
      case isFalse => exact isDown_seat rfl c
    · have hstate : (c.adopt run).state = c.seat run.state := by
        simp only [adopt, hresult]
        rfl
      rw [hstate]
      exact isDown_seat ((Session.phase_writeStatus hrun hresult).trans hphase) c

end Controller

/-- Whether an errand needs a session that goes on. -/
def Errand.IsGuarded : Errand → Prop
  | waitForHalt => True
  | step _ => True
  | handle _ => True
  | _ => False

theorem Errand.refuses_of_isDown {errand : Errand} {w : World}
    {r : Run Controller SimulatedDevice (Except SessionError errand.Reply)}
    (h : errand.Performs w r) (hguarded : errand.IsGuarded) (hw : w.1.IsDown) :
    w.1.Refuses w.2 r := by
  have hstep : ∀ (into : Bool) (s : Session) run, s.phase = .terminated →
      Outcome (Session.notify w.1.listening) Session.Stirs (Session.step into s) w.2 run →
      s.Refuses w.2 run := by
    intro into s run hphase hrun
    have hne : s.phase ≠ .paused := by simp [hphase]
    rw [hrun.eq_run (Session.isDirect_step into s)]
    exact ⟨.paused, hne, Session.run_step_of_ne hne into⟩
  cases errand with
  | waitForHalt =>
    exact hw.refuses h fun s run hphase hrun =>
      Session.refuses_waitForHalt hrun (by simp [hphase])
  | step into => exact hw.refuses h (hstep into)
  | handle command => exact hw.refuses h (hstep command.isInto)
  | _ => exact hguarded.elim

namespace World

variable {w w' : World}

theorem isDown_after (hw : w.1.IsDown) (incident : Incident) : (w.after incident).1.IsDown := by
  obtain ⟨c, d⟩ := w
  cases hsession : c.session with
  | none =>
    obtain ⟨d', hafter, -, -⟩ := after_of_none hsession d incident
    rw [hafter]
    exact hw
  | some s =>
    obtain ⟨s', d', hafter, hstirs⟩ := stirs_after c s d incident
    rw [Controller.seat_of_session hsession] at hafter
    rw [hafter]
    rintro s'' hs
    cases hs
    exact hstirs.phase.trans (hw s hsession)

theorem isDown_perform {errand : Errand}
    {r : Run Controller SimulatedDevice (Except SessionError errand.Reply)} (hw : w.1.IsDown)
    (h : errand.Performs w r) (hopens : ¬errand.Opens) : r.state.IsDown := by
  -- A session that is down can only be written to or ended.
  by_cases hguarded : errand.IsGuarded
  · obtain ⟨e, -, rfl⟩ := errand.refuses_of_isDown h hguarded hw
    exact hw
  cases errand with
  | start compiled => exact absurd trivial hopens
  | startDebug compiled => exact absurd trivial hopens
  | waitForHalt => exact absurd trivial hguarded
  | step into => exact absurd trivial hguarded
  | handle command => exact absurd trivial hguarded
  | finish =>
    cases h
    exact Controller.isDown_of_none rfl
  | writeStatus status => exact hw.writeStatus h

theorem Course.isDown {errands : List Errand} (h : Course w errands w') (hw : w.1.IsDown)
    (hopens : ∀ errand ∈ errands, ¬errand.Opens) : w'.1.IsDown := by
  induction h with
  | stay => exact hw
  | happen incident _ ih => exact ih (isDown_after hw incident) hopens
  | @perform w w' errand errands r hperforms _ ih =>
    exact ih (isDown_perform hw hperforms (hopens errand List.mem_cons_self))
      fun later hlater => hopens later (List.mem_cons_of_mem _ hlater)

end World

/-- A start that fails early makes no request. -/
theorem Controller.untouched_of_early {has : Capabilities}
    {compiled : Except CompileError Program} {c : Controller} {d : SimulatedDevice}
    {r : Run Controller SimulatedDevice (Except SessionError Unit)}
    (h : Outcome notify World.Happens (start has compiled c) d r) {e : SessionError}
    (he : r.result = some (.error e)) (hearly : e.IsEarly) : r.link = d := by
  obtain ⟨e', -, rfl⟩ | ⟨s, observer, run, -, hrun, rfl⟩ := outcome_start h
  · rfl
  · rw [result_adopt] at he
    rw [adopt_of_error he]
    rw [hrun.eq_run (Session.isDirect_flashAndArm s)] at he ⊢
    obtain ⟨-, -, hlink⟩ | ⟨kind, -, rfl⟩ := (Session.ends_flashAndArm s d).of_error he
    · exact hlink
    · simp [SessionError.IsEarly] at hearly

/-- A call that is not possible changes nothing. Any other failure ends the session: nothing is left
that waits, and until the next start every step and every wait is turned away. A start that fails
early leaves the device alone. -/
theorem errand_error {errand : Errand} {w : World}
    {r : Run Controller SimulatedDevice (Except SessionError errand.Reply)}
    (h : errand.Performs w r) {e : SessionError} (he : r.result = some (.error e)) :
    (e.IsRefusal ∧ r.state = w.1 ∧ r.link = w.2 ∨
      ¬e.IsRefusal ∧ r.state.phase = .terminated ∧
        (∀ s, r.state.session = some s →
          s.wait = none ∧ s.observer = none ∧ s.latch.isArmed = false) ∧
        ∀ errands w', World.Course (r.state, r.link) errands w' →
          (∀ later ∈ errands, ¬later.Opens) →
          ∀ (later : Errand)
            (r' : Run Controller SimulatedDevice (Except SessionError later.Reply)),
            later.IsGuarded → later.Performs w' r' →
            ∃ e', e'.IsRefusal ∧ r' = ⟨some (.error e'), w'.1, w'.2⟩) ∧
    ∀ compiled, errand = .start compiled → e.IsEarly → r.link = w.2 := by
  refine ⟨?_, ?_⟩
  · obtain ⟨hharmless, hstate, hlink⟩ | ⟨hharmless, hphase, hclosed⟩ := errand.fails h e he
    · exact .inl ⟨e.isHarmless_iff.1 hharmless, hstate, hlink⟩
    · refine .inr ⟨fun hrefusal => ?_, hphase, fun s hs => ?_, ?_⟩
      · simp [e.isHarmless_iff.2 hrefusal] at hharmless
      · exact ⟨(hclosed s hs).wait, (hclosed s hs).observer, (hclosed s hs).unarmed⟩
      · intro errands w' hcourse hopens later r' hguarded hperforms
        have hdown : r.state.IsDown := by
          intro s hs
          simpa only [Controller.phase, hs] using hphase
        obtain ⟨e', he', hr'⟩ :=
          later.refuses_of_isDown hperforms hguarded (hcourse.isDown hdown hopens)
        refine ⟨e', ?_, hr'⟩
        obtain hnone | ⟨expected, -, hwrong⟩ := he'
        · exact .inl hnone
        · exact .inr ⟨_, _, hwrong⟩
  · rintro compiled rfl hearly
    exact Controller.untouched_of_early h he hearly

/-- The session ends when the image cannot be written. -/
theorem flash_error :
    let w : World := (.new .standard, (SimulatedDevice.sample []).inject .flash)
    let r := Routine.run Controller.notify (Controller.start w.2.capabilities (.ok .sample)) w.1 w.2
    r.result = some (.error (.link (.injected .flash))) ∧ r.state.phase = .terminated ∧
      ∀ s, r.state.session = some s →
        s.wait = none ∧ s.observer = none ∧ s.latch.isArmed = false := by
  intro w r
  have he : r.result = some (.error (.link (.injected .flash))) := by rfl
  have hperforms : (Errand.start (.ok .sample)).Performs w r := outcome_run _ _
  obtain ⟨⟨hrefusal, -, -⟩ | ⟨-, hphase, hclosed, -⟩, -⟩ := errand_error hperforms he
  · simp [SessionError.IsRefusal] at hrefusal
  · exact ⟨he, hphase, hclosed⟩

end BoardDebug
