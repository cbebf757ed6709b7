import BoardDebug.Proofs.Session.PairedCalls
import Mathlib.Data.List.Forall2

namespace BoardDebug

open Call Routine

section Matches

variable {α β : Type} {call call' : Call Controller α} {d d' : SimulatedDevice}

/-- The same comes of both sides, in worlds that stay paired, whatever the tester has to do. -/
structure Matches
    (follows follows' : List Act → Run Controller SimulatedDevice α → List Act → Prop) :
    Prop where
  agree : ∀ {acts rest rest' run run'}, follows acts run rest → follows' acts run' rest' →
    run.Paired run' ∧ rest' = rest
  right : ∀ {acts rest run}, follows acts run rest → ∃ run', follows' acts run' rest
  left : ∀ {acts rest run'}, follows' acts run' rest → ∃ run, follows acts run rest

section Sides

variable {follows follows' : List Act → Run Controller SimulatedDevice α → List Act → Prop}
  {acts rest : List Act} {run : Run Controller SimulatedDevice α}

theorem Matches.exists_right (h : Matches follows follows') (hfollows : follows acts run rest) :
    ∃ w', follows' acts ⟨run.result, w'.1, w'.2⟩ rest ∧
      World.Paired (run.state, run.link) w' := by
  obtain ⟨run', hfollows'⟩ := h.right hfollows
  obtain ⟨⟨hresult, hworlds⟩, -⟩ := h.agree hfollows hfollows'
  refine ⟨(run'.state, run'.link), ?_, hworlds⟩
  rwa [hresult]

theorem Matches.exists_left (h : Matches follows follows') (hfollows : follows' acts run rest) :
    ∃ w, follows acts ⟨run.result, w.1, w.2⟩ rest ∧ World.Paired w (run.state, run.link) := by
  obtain ⟨run', hfollows'⟩ := h.left hfollows
  obtain ⟨⟨hresult, hworlds⟩, -⟩ := h.agree hfollows' hfollows
  refine ⟨(run'.state, run'.link), ?_, hworlds⟩
  rwa [← hresult]

end Sides

theorem Matches.of_direct (hcall : call.IsDirect) (hcall' : call'.IsDirect)
    (h : (call.run Controller.notify d).Paired (call'.run Controller.notify d')) :
    Matches (call.Follows d) (call'.Follows d') where
  agree hfollows hfollows' := by
    obtain ⟨rfl, rfl⟩ := hfollows.eq_run hcall
    obtain ⟨rfl, rfl⟩ := hfollows'.eq_run hcall'
    exact ⟨h, rfl⟩
  right hfollows := by
    obtain ⟨-, rfl⟩ := hfollows.eq_run hcall
    exact ⟨_, follows_of_isDirect hcall' _ _⟩
  left hfollows := by
    obtain ⟨-, rfl⟩ := hfollows.eq_run hcall'
    exact ⟨_, follows_of_isDirect hcall _ _⟩

variable {f f' : α → Controller → Call Controller β}

theorem matches_continues {mid mid' : Run Controller SimulatedDevice α} (h : mid.Paired mid')
    (hf : ∀ a w w', World.Paired w w' →
      Matches ((f a w.1).Follows w.2) ((f' a w'.1).Follows w'.2)) :
    Matches (Continues f mid) (Continues f' mid') := by
  obtain ⟨hresult, hworlds⟩ := h
  unfold Continues
  rw [← hresult]
  cases mid.result with
  | some a => exact hf a _ _ hworlds
  | none =>
    refine ⟨?_, fun h => ⟨_, rfl, h.2⟩, fun h => ⟨_, rfl, h.2⟩⟩
    rintro acts rest rest' run run' ⟨rfl, rfl⟩ ⟨rfl, rfl⟩
    exact ⟨⟨rfl, hworlds⟩, rfl⟩

/-- Calls that match may go on with calls that match. -/
theorem Matches.bind (h : Matches (call.Follows d) (call'.Follows d'))
    (hf : ∀ a w w', World.Paired w w' →
      Matches ((f a w.1).Follows w.2) ((f' a w'.1).Follows w'.2)) :
    Matches ((call.bind f).Follows d) ((call'.bind f').Follows d') where
  agree hfollows hfollows' := by
    obtain ⟨mid, left, hmid, hrest⟩ := hfollows.of_bind
    obtain ⟨mid', left', hmid', hrest'⟩ := hfollows'.of_bind
    obtain ⟨hpaired, rfl⟩ := h.agree hmid hmid'
    exact (matches_continues hpaired hf).agree hrest hrest'
  right hfollows := by
    obtain ⟨mid, left, hmid, hrest⟩ := hfollows.of_bind
    obtain ⟨mid', hmid'⟩ := h.right hmid
    have hcontinues := matches_continues (h.agree hmid hmid').1 hf
    obtain ⟨run', hrun'⟩ := hcontinues.right hrest
    exact ⟨run', hmid'.bind hrun'⟩
  left hfollows := by
    obtain ⟨mid', left, hmid', hrest⟩ := hfollows.of_bind
    obtain ⟨mid, hmid⟩ := h.left hmid'
    have hcontinues := matches_continues (h.agree hmid hmid').1 hf
    obtain ⟨run, hrun⟩ := hcontinues.left hrest
    exact ⟨run, hmid.bind hrun⟩

end Matches

namespace World

variable {w w' : World} {incident : Incident}

/-- There is a session whose halt can be waited for. -/
def IsArmed (w : World) : Prop :=
  ∃ s, w.1.session = some s ∧ s.phase = .armed

theorem IsArmed.after (h : w.IsArmed) (incident : Incident) : (w.after incident).IsArmed := by
  obtain ⟨c, d⟩ := w
  obtain ⟨s, hs, hphase⟩ := h
  obtain ⟨s', d', hafter, hstirs⟩ := stirs_after c s d incident
  rw [Controller.seat_of_session hs] at hafter
  rw [hafter]
  exact ⟨s', rfl, hstirs.phase.trans hphase⟩

end World

namespace Controller

/-- How a wait sees that it is over, and what is left of it then. -/
structure Heeds (ready : Controller → Option HaltOutcome)
    (next : HaltOutcome → Routine Controller HaltMessage) : Prop where
  ready : ∀ {c s}, c.session = some s → ready c = s.outcome?
  next : ∀ outcome {c s}, c.session = some s → next outcome c =
    onSession (Session.closeWait outcome) c

/-- A wait for the halt of an armed session. -/
theorem exists_heeds {c : Controller} {s : Session} (hs : c.session = some s)
    (hphase : s.phase = .armed) :
    ∃ ready next, Heeds ready next ∧ waitForHalt c = .await c ready next := by
  have hwait : waitForHalt c = .await (c.seat s) (fun c => (c.session.getD s).outcome?)
      fun outcome c =>
        ((Session.closeWait outcome (c.session.getD s)).within (·.session) seat c).bind
          fun result c => .done (c.settle result) result := by
    unfold waitForHalt onSession
    simp only [hs, Session.waitForHalt_eq, hphase, if_true]
    rfl
  rw [seat_of_session hs] at hwait
  refine ⟨_, _, ⟨?_, ?_⟩, hwait⟩
  · intro c s hs
    rw [hs]
    rfl
  · intro outcome c s hs
    unfold onSession
    simp only [hs]
    rfl

theorem waitForHalt_of_ne {c : Controller} {s : Session} (hs : c.session = some s)
    (hphase : s.phase ≠ .armed) :
    waitForHalt c = .done c (.error (.wrongPhase .armed s.phase)) := by
  have hwait : waitForHalt c = .done (c.seat s) (.error (.wrongPhase .armed s.phase)) := by
    unfold waitForHalt onSession
    simp only [hs, Session.waitForHalt_eq, hphase, if_false]
    rfl
  rwa [seat_of_session hs] at hwait

end Controller

section Waiting

variable {ready ready' : Controller → Option HaltOutcome}
  {next next' : HaltOutcome → Routine Controller HaltMessage}

namespace World

variable {w w' : World} {outcome : HaltOutcome} {pc : UInt32}

theorem Paired.armed (h : w.Paired w') (harmed : w.IsArmed) :
    ∃ s s', w.1.session = some s ∧ w'.1.session = some s' ∧ s.phase = .armed ∧
      Session.Paired w.2.haltedAt s s' := by
  obtain ⟨s, hs, hphase⟩ := harmed
  obtain ⟨hnone, -⟩ | ⟨t, s', ht, hs', -, hpaired⟩ := h.controller.sessions
  · simp [hs] at hnone
  · obtain rfl : s = t := Option.some.inj (hs.symm.trans ht)
    exact ⟨s, s', hs, hs', hphase, hpaired⟩

theorem Paired.isArmed (h : w.Paired w') (harmed : w.IsArmed) : w'.IsArmed := by
  obtain ⟨s, s', -, hs', hphase, hpaired⟩ := h.armed harmed
  exact ⟨s', hs', hpaired.like.phase.trans hphase⟩

/-- Who is told of halts is ready as soon as the device is halted. -/
theorem Paired.told (h : w.Paired w') (harmed : w.IsArmed) (hheeds : Controller.Heeds ready next) :
    ready w.1 = w.2.haltedAt.map .halted := by
  obtain ⟨s, s', hs, -, hphase, hpaired⟩ := h.armed harmed
  rw [hheeds.ready hs]
  exact (hpaired.armed hphase).1.outcome?

/-- Who asks for halts may be ready later, but not for another halt. -/
theorem Paired.asked (h : w.Paired w') (harmed : w.IsArmed)
    (hheeds' : Controller.Heeds ready' next') (hready : ready' w'.1 = some outcome) :
    ∃ pc, w.2.haltedAt = some pc ∧ outcome = .halted pc := by
  obtain ⟨s, s', -, hs', hphase, hpaired⟩ := h.armed harmed
  rw [hheeds'.ready hs'] at hready
  obtain hnone | ⟨pc, hpc, hsome⟩ := (hpaired.armed hphase).2.outcome?
  · simp [hnone] at hready
  · exact ⟨pc, hpc, Option.some.inj (hready.symm.trans hsome)⟩

theorem Paired.unready (h : w.Paired w') (harmed : w.IsArmed)
    (hheeds' : Controller.Heeds ready' next') (hruns : w.2.haltedAt = none) :
    ready' w'.1 = none := by
  cases hready : ready' w'.1 with
  | none => rfl
  | some outcome =>
    obtain ⟨pc, hpc, -⟩ := h.asked harmed hheeds' hready
    cases hruns.symm.trans hpc

/-- Who asks for halts gets ready in the end. -/
theorem Paired.exists_ready (h : w.Paired w') (harmed : w.IsArmed)
    (hheeds' : Controller.Heeds ready' next') (hhalted : w.2.haltedAt = some pc) :
    ∃ w₁, w'.Polls w₁ ∧ ready' w₁.1 = some (.halted pc) := by
  obtain ⟨s, hs, hphase⟩ := harmed
  obtain ⟨w₁, hpolls, s₁, hs₁, hcaught⟩ := h.exists_caught hs hphase hhalted
  exact ⟨w₁, hpolls, (hheeds'.ready hs₁).trans hcaught⟩

theorem IsArmed.isDirect (harmed : w.IsArmed) (hheeds : Controller.Heeds ready next)
    (outcome : HaltOutcome) : (next outcome w.1).IsDirect := by
  obtain ⟨s, hs, -⟩ := harmed
  rw [hheeds.next outcome hs]
  exact Controller.isDirect_onSession (Session.isDirect_closeWait outcome) _

/-- The same is left of both waits. -/
theorem Paired.wakes (h : w.Paired w') (harmed : w.IsArmed) (hheeds : Controller.Heeds ready next)
    (hheeds' : Controller.Heeds ready' next') (pc : UInt32) :
    ((next (.halted pc) w.1).run Controller.notify w.2).Paired
      ((next' (.halted pc) w'.1).run Controller.notify w'.2) := by
  obtain ⟨s, s', hs, hs', hphase, -⟩ := h.armed harmed
  rw [hheeds.next _ hs, hheeds'.next _ hs']
  refine Controller.paired_onSession h (Session.isDirect_closeWait _)
    (fun _ => Session.twins_closeWait pc) ?_
  intro t t' listening' ht _ hpaired
  obtain rfl : s = t := Option.some.inj (hs.symm.trans ht)
  exact Session.keepsPaired_closeWait pc h.device hpaired hphase

end World

variable {c c' : Controller} {d d' : SimulatedDevice} {acts rest rest' : List Act}
  {run run' : Run Controller SimulatedDevice (Except SessionError HaltMessage)}

section Await

variable (hheeds : Controller.Heeds ready next) (hheeds' : Controller.Heeds ready' next')

include hheeds hheeds'

theorem agree_await (hw : World.Paired (c, d) (c', d')) (harmed : World.IsArmed (c, d))
    (h : Follows (.await c ready next) d acts run rest)
    (h' : Follows (.await c' ready' next') d' acts run' rest') :
    run.Paired run' ∧ rest' = rest := by
  -- Whether the device is halted decides how both waits go on: all but three pairs of cases are
  -- impossible. The wait starts anew after each act, and the induction is on what follows.
  generalize hwhole : Call.await c ready next = whole at h
  induction h generalizing c c' d' with
  | done => cases hwhole
  | ask => cases hwhole
  | @happen _ _ _ _ _ incident _ _ _ hpolls _ hruns hallows _ ih =>
    cases hwhole
    obtain rfl := hw.polls_left hpolls
    cases h' with
    | happen hpolls' _ _ _ hlater' =>
      exact ih ((hw.polls_right hpolls').after hallows) (harmed.after incident) hlater' rfl
    | woken hpolls' hready' _ =>
      cases ((hw.polls_right hpolls').unready harmed hheeds' hruns).symm.trans hready'
    | never _ _ hacts => exact absurd rfl (hacts _ _)
  | woken hpolls hready hlater _ =>
    cases hwhole
    obtain rfl := hw.polls_left hpolls
    rw [hw.told harmed hheeds, Option.map_eq_some_iff] at hready
    obtain ⟨pc, hhalted, rfl⟩ := hready
    cases h' with
    | happen hpolls' _ hruns' _ _ =>
      have hhalted' := (hw.polls_right hpolls').device.haltedAt.trans hhalted
      cases hruns'.symm.trans hhalted'
    | woken hpolls' hready' hlater' =>
      have hw' := hw.polls_right hpolls'
      obtain ⟨pc', hpc', rfl⟩ := hw'.asked harmed hheeds' hready'
      obtain rfl : pc = pc' := Option.some.inj (hhalted.symm.trans hpc')
      obtain ⟨rfl, rfl⟩ := hlater.eq_run (harmed.isDirect hheeds _)
      obtain ⟨rfl, rfl⟩ := hlater'.eq_run ((hw'.isArmed harmed).isDirect hheeds' _)
      exact ⟨hw'.wakes harmed hheeds hheeds' pc, rfl⟩
    | never hpolls' hnever' _ =>
      obtain ⟨w₁, hpolls₁, hready₁⟩ :=
        (hw.polls_right hpolls').exists_ready harmed hheeds' hhalted
      cases (hnever' w₁ hpolls₁).symm.trans hready₁
  | never hpolls hnever hacts =>
    cases hwhole
    obtain rfl := hw.polls_left hpolls
    have hruns := hnever _ .refl
    rw [hw.told harmed hheeds, Option.map_eq_none_iff] at hruns
    cases h' with
    | happen => exact absurd rfl (hacts _ _)
    | woken hpolls' hready' _ =>
      cases ((hw.polls_right hpolls').unready harmed hheeds' hruns).symm.trans hready'
    | never hpolls' _ _ => exact ⟨⟨rfl, hw.polls_right hpolls'⟩, rfl⟩

theorem right_await (hw : World.Paired (c, d) (c', d')) (harmed : World.IsArmed (c, d))
    (h : Follows (.await c ready next) d acts run rest) :
    ∃ run', Follows (.await c' ready' next') d' acts run' rest := by
  generalize hwhole : Call.await c ready next = whole at h
  induction h generalizing c c' d' with
  | done => cases hwhole
  | ask => cases hwhole
  | @happen _ _ _ _ _ incident _ _ _ hpolls _ hruns hallows _ ih =>
    cases hwhole
    obtain rfl := hw.polls_left hpolls
    obtain ⟨run', hrun'⟩ := ih (hw.after hallows) (harmed.after incident) rfl
    exact ⟨run', .happen .refl (hw.unready harmed hheeds' hruns)
      (hw.device.haltedAt.trans hruns) (hw.allows.2 hallows) hrun'⟩
  | woken hpolls hready hlater _ =>
    cases hwhole
    obtain rfl := hw.polls_left hpolls
    rw [hw.told harmed hheeds, Option.map_eq_some_iff] at hready
    obtain ⟨pc, hhalted, rfl⟩ := hready
    obtain ⟨-, rfl⟩ := hlater.eq_run (harmed.isDirect hheeds _)
    obtain ⟨w₁, hpolls₁, hready₁⟩ := hw.exists_ready harmed hheeds' hhalted
    have harmed₁ := (hw.polls_right hpolls₁).isArmed harmed
    exact ⟨_, .woken hpolls₁ hready₁ (follows_of_isDirect (harmed₁.isDirect hheeds' _) _ _)⟩
  | never hpolls hnever hacts =>
    cases hwhole
    obtain rfl := hw.polls_left hpolls
    have hruns := hnever _ .refl
    rw [hw.told harmed hheeds, Option.map_eq_none_iff] at hruns
    exact ⟨_, .never .refl
      (fun w₁ hpolls₁ => (hw.polls_right hpolls₁).unready harmed hheeds' hruns) hacts⟩

theorem left_await (hw : World.Paired (c, d) (c', d')) (harmed : World.IsArmed (c, d))
    (h : Follows (.await c' ready' next') d' acts run' rest) :
    ∃ run, Follows (.await c ready next) d acts run rest := by
  have htold := hw.told harmed hheeds
  generalize hwhole : Call.await c' ready' next' = whole at h
  induction h generalizing c c' d with
  | done => cases hwhole
  | ask => cases hwhole
  | @happen _ _ _ _ _ incident _ _ _ hpolls _ hruns hallows _ ih =>
    cases hwhole
    have hw' := hw.polls_right hpolls
    have hallows' := hw'.allows.1 hallows
    have hruns' : d.haltedAt = none := hw'.device.haltedAt.symm.trans hruns
    obtain ⟨run, hrun⟩ := ih (hw'.after hallows') (harmed.after incident)
      ((hw'.after hallows').told (harmed.after incident) hheeds) rfl
    refine ⟨run, .happen .refl ?_ hruns' hallows' hrun⟩
    rw [htold, hruns']
    rfl
  | woken hpolls hready hlater _ =>
    cases hwhole
    have hw' := hw.polls_right hpolls
    obtain ⟨pc, hhalted, rfl⟩ := hw'.asked harmed hheeds' hready
    obtain ⟨-, rfl⟩ := hlater.eq_run ((hw'.isArmed harmed).isDirect hheeds' _)
    refine ⟨_, .woken .refl ?_ (follows_of_isDirect (harmed.isDirect hheeds (.halted pc)) _ _)⟩
    rw [htold, hhalted]
    rfl
  | never hpolls hnever hacts =>
    cases hwhole
    have hw' := hw.polls_right hpolls
    -- A halt would not stay unknown for ever, so the device is not halted.
    refine ⟨_, .never .refl (fun w₁ hpolls₁ => ?_) hacts⟩
    obtain rfl := hw.polls_left hpolls₁
    rw [htold, Option.map_eq_none_iff]
    cases hhalted : d.haltedAt with
    | none => rfl
    | some pc =>
      obtain ⟨w₁, hpolls₁, hready₁⟩ := hw'.exists_ready harmed hheeds' hhalted
      cases (hnever w₁ hpolls₁).symm.trans hready₁

theorem matches_await (hw : World.Paired (c, d) (c', d')) (harmed : World.IsArmed (c, d)) :
    Matches (Follows (.await c ready next) d) (Follows (.await c' ready' next') d') where
  agree := agree_await hheeds hheeds' hw harmed
  right := right_await hheeds hheeds' hw harmed
  left := left_await hheeds hheeds' hw harmed

end Await

end Waiting

section Errands

variable {w w' : World}

theorem matches_waitForHalt (h : w.Paired w') :
    Matches ((Controller.waitForHalt w.1).Follows w.2)
      ((Controller.waitForHalt w'.1).Follows w'.2) := by
  have hrefused {e : SessionError} (hcall : Controller.waitForHalt w.1 = .done w.1 (.error e))
      (hcall' : Controller.waitForHalt w'.1 = .done w'.1 (.error e)) :
      Matches ((Controller.waitForHalt w.1).Follows w.2)
        ((Controller.waitForHalt w'.1).Follows w'.2) := by
    rw [hcall, hcall']
    exact .of_direct trivial trivial ⟨rfl, h⟩
  obtain ⟨hnone, hnone'⟩ | ⟨s, s', hs, hs', -, hpaired⟩ := h.controller.sessions
  · exact hrefused (Controller.onSession_of_none hnone _) (Controller.onSession_of_none hnone' _)
  · have hphases : s'.phase = s.phase := hpaired.like.phase
    by_cases hphase : s.phase = .armed
    · obtain ⟨ready, next, hheeds, hcall⟩ := Controller.exists_heeds hs hphase
      obtain ⟨ready', next', hheeds', hcall'⟩ :=
        Controller.exists_heeds hs' (hphases.trans hphase)
      rw [hcall, hcall']
      exact matches_await hheeds hheeds' h ⟨s, hs, hphase⟩
    · have hcall' := Controller.waitForHalt_of_ne hs' (hphases ▸ hphase)
      rw [hphases] at hcall'
      exact hrefused (Controller.waitForHalt_of_ne hs hphase) hcall'

theorem matches_onSession {α : Type} {call : Routine Session α} (h : w.Paired w')
    (hdirect : call.IsDirect)
    (htwins : ∀ listening', Session.Twins true listening' call call)
    (hkeeps : ∀ s s' listening', w.1.session = some s → w'.1.session = some s' →
      Session.Paired w.2.haltedAt s s' → Session.KeepsPaired call s s' w.2 w'.2 listening') :
    Matches ((Controller.onSession call w.1).Follows w.2)
      ((Controller.onSession call w'.1).Follows w'.2) :=
  .of_direct (Controller.isDirect_onSession hdirect _) (Controller.isDirect_onSession hdirect _)
    (Controller.paired_onSession h hdirect htwins hkeeps)

theorem matches_start (h : w.Paired w') (compiled : Except CompileError Program) :
    Matches ((Controller.start w.2.capabilities compiled w.1).Follows w.2)
      ((Controller.start w'.2.capabilities compiled w'.1).Follows w'.2) :=
  .of_direct (Controller.isDirect_start _ _ _) (Controller.isDirect_start _ _ _)
    (Controller.paired_start h compiled)

/-- In paired worlds the same comes of every errand. -/
theorem Errand.matches (errand : Errand) (h : w.Paired w') :
    Matches ((errand.routine w.2.capabilities w.1).Follows w.2)
      ((errand.routine w'.2.capabilities w'.1).Follows w'.2) := by
  have hstep (into : Bool) :=
    matches_onSession h (Session.isDirect_step into) (fun _ => Session.twins_step into)
      fun _ _ _ _ _ hpaired => Session.keepsPaired_step into h.device hpaired
  cases errand with
  | start compiled => exact matches_start h compiled
  | startDebug compiled =>
    refine (matches_start h compiled).bind fun result w w' hpaired => ?_
    cases result with
    | ok _ => exact matches_waitForHalt hpaired
    | error e => exact .of_direct trivial trivial ⟨rfl, hpaired⟩
  | waitForHalt => exact matches_waitForHalt h
  | step into => exact hstep into
  | handle command => exact hstep command.isInto
  | writeStatus status =>
    exact matches_onSession h (Session.isDirect_writeStatus status)
      (fun _ => Session.twins_writeStatus status)
      fun _ _ _ _ _ hpaired => Session.keepsPaired_writeStatus status h.device hpaired
  | finish =>
    exact .of_direct trivial trivial
      ⟨rfl, h.device, h.controller.pushes, h.controller.polls, rfl, .inl ⟨rfl, rfl⟩⟩

end Errands

namespace World

/-- What a tester sees of a world; he does not look for questions whether the device is halted. -/
structure Agrees (w w' : World) : Prop where
  phase : w.1.phase = w'.1.phase
  memory : w.2.memory = w'.2.memory
  armed : w.2.armed = w'.2.armed
  log : orders w.2.log = orders w'.2.log

theorem Paired.agrees {w w' : World} (h : w.Paired w') : w.Agrees w' := by
  obtain ⟨c, d⟩ := w
  obtain ⟨c', d'⟩ := w'
  obtain ⟨hdevice, hcontroller⟩ := h
  obtain ⟨log, hevents, hfailures, hlog⟩ := hdevice
  exact ⟨hcontroller.phase, rfl, rfl, hlog.symm⟩

end World

/-- The same came of the same errand. -/
inductive Report.Agrees : Report → Report → Prop where
  | mk (errand : Errand) (result : Option (Except SessionError errand.Reply)) {w w' : World} :
      w.Agrees w' → Agrees ⟨errand, result, w⟩ ⟨errand, result, w'⟩

theorem Call.Run.Paired.agrees {errand : Errand}
    {run run' : Run Controller SimulatedDevice (Except SessionError errand.Reply)}
    (h : run.Paired run') :
    Report.Agrees ⟨errand, run.result, (run.state, run.link)⟩
      ⟨errand, run'.result, (run'.state, run'.link)⟩ := by
  rw [← h.result]
  exact .mk errand _ h.worlds.agrees

namespace World

variable {w w' w₁ w₁' : World} {acts : List Act} {reports reports' : List Report}

/-- The same comes of a script in paired worlds. -/
theorem Plays.agree (h : w.Plays acts reports w₁) (hw : w.Paired w')
    (h' : w'.Plays acts reports' w₁') :
    List.Forall₂ Report.Agrees reports reports' ∧ w₁.Agrees w₁' := by
  induction h generalizing w' reports' with
  | stop hpolls =>
    obtain rfl := hw.polls_left hpolls
    cases h' with
    | stop hpolls' => exact ⟨.nil, (hw.polls_right hpolls').agrees⟩
  | happen hpolls hallows _ ih =>
    obtain rfl := hw.polls_left hpolls
    cases h' with
    | happen hpolls' _ hlater' => exact ih ((hw.polls_right hpolls').after hallows) hlater'
  | @finish _ _ _ errand _ _ _ _ _ _ hpolls hfollows _ ih =>
    obtain rfl := hw.polls_left hpolls
    cases h' with
    | finish hpolls' hfollows' hlater' =>
      obtain ⟨hpaired, rfl⟩ := (errand.matches (hw.polls_right hpolls')).agree hfollows hfollows'
      obtain ⟨hreports, hends⟩ := ih hpaired.worlds hlater'
      exact ⟨.cons hpaired.agrees hreports, hends⟩
    | never hpolls' hfollows' =>
      obtain ⟨⟨hresult, -⟩, -⟩ := (errand.matches (hw.polls_right hpolls')).agree hfollows hfollows'
      cases hresult
  | @never _ _ errand _ _ _ _ hpolls hfollows =>
    obtain rfl := hw.polls_left hpolls
    cases h' with
    | finish hpolls' hfollows' _ =>
      obtain ⟨⟨hresult, -⟩, -⟩ := (errand.matches (hw.polls_right hpolls')).agree hfollows hfollows'
      cases hresult
    | never hpolls' hfollows' =>
      obtain ⟨hpaired, -⟩ := (errand.matches (hw.polls_right hpolls')).agree hfollows hfollows'
      exact ⟨.cons hpaired.agrees .nil, hpaired.worlds.agrees⟩

theorem Plays.right (h : w.Plays acts reports w₁) (hw : w.Paired w') :
    ∃ reports' w₁', w'.Plays acts reports' w₁' := by
  induction h generalizing w' with
  | stop => exact ⟨_, _, .stop .refl⟩
  | happen hpolls hallows _ ih =>
    obtain rfl := hw.polls_left hpolls
    obtain ⟨_, _, hlater⟩ := ih (hw.after hallows)
    exact ⟨_, _, .happen .refl (hw.allows.2 hallows) hlater⟩
  | @finish _ _ _ errand _ _ _ _ _ _ hpolls hfollows _ ih =>
    obtain rfl := hw.polls_left hpolls
    obtain ⟨_, hfollows', hworlds⟩ := (errand.matches hw).exists_right hfollows
    obtain ⟨_, _, hlater⟩ := ih hworlds
    exact ⟨_, _, .finish .refl hfollows' hlater⟩
  | @never _ _ errand _ _ _ _ hpolls hfollows =>
    obtain rfl := hw.polls_left hpolls
    obtain ⟨_, hfollows', -⟩ := (errand.matches hw).exists_right hfollows
    exact ⟨_, _, .never .refl hfollows'⟩

theorem Plays.left (h : w'.Plays acts reports' w₁') (hw : w.Paired w') :
    ∃ reports w₁, w.Plays acts reports w₁ := by
  induction h generalizing w with
  | stop => exact ⟨_, _, .stop .refl⟩
  | happen hpolls hallows _ ih =>
    have hw' := hw.polls_right hpolls
    have hallows' := hw'.allows.1 hallows
    obtain ⟨_, _, hlater⟩ := ih (hw'.after hallows')
    exact ⟨_, _, .happen .refl hallows' hlater⟩
  | @finish _ _ _ errand _ _ _ _ _ _ hpolls hfollows _ ih =>
    obtain ⟨_, hfollows₁, hworlds⟩ :=
      (errand.matches (hw.polls_right hpolls)).exists_left hfollows
    obtain ⟨_, _, hlater⟩ := ih hworlds
    exact ⟨_, _, .finish .refl hfollows₁ hlater⟩
  | @never _ _ errand _ _ _ _ hpolls hfollows =>
    obtain ⟨_, hfollows₁, -⟩ := (errand.matches (hw.polls_right hpolls)).exists_left hfollows
    exact ⟨_, _, .never .refl hfollows₁⟩

/-- Whether a controller is told of halts or asks for them makes no difference, as long as its
device is halted by hand only while it runs and the question is not made to fail: the same comes of
every errand, and what was done on the device is the same but for the questions. A script has a
course with one of the controllers if it has one with the other, and in it the same waits never
complete. -/
theorem push_poll_interchangeable (device : SimulatedDevice) (statusQuery : Bool)
    (pushed polled : SessionConfig) (hpushed : pushed.strategy ≠ .poll)
    (hpolled : polled.strategy ≠ .push) (hinterval : 0 < polled.pollInterval)
    (hfailures : .queryHalt ∉ device.failures) (acts : List Act) :
    let push : World := (.new pushed, { device with capabilities := ⟨true, statusQuery⟩ })
    let poll : World := (.new polled, { device with capabilities := ⟨false, true⟩ })
    (∀ reports w reports' w', push.Plays acts reports w → poll.Plays acts reports' w' →
      List.Forall₂ Report.Agrees reports reports' ∧ w.Agrees w') ∧
    ((∃ reports w, push.Plays acts reports w) ↔ ∃ reports' w', poll.Plays acts reports' w') := by
  intro push poll
  have hpaired : push.Paired poll :=
    ⟨.mk device.log rfl hfailures rfl, hpushed, ⟨hpolled, hinterval⟩, rfl, .inl ⟨rfl, rfl⟩⟩
  refine ⟨fun reports w reports' w' h h' => h.agree hpaired h', ?_, ?_⟩
  · rintro ⟨reports, w, h⟩
    exact h.right hpaired
  · rintro ⟨reports', w', h⟩
    exact h.left hpaired

/-- A session whose device halts on its own at first, then by hand. -/
theorem push_poll_interchangeable_sample :
    let device : SimulatedDevice := .sample [0x2100]
    let push : World := (.new ⟨.push, 200⟩, { device with capabilities := ⟨true, false⟩ })
    let poll : World := (.new ⟨.poll, 1⟩, { device with capabilities := ⟨false, true⟩ })
    let acts : List Act :=
      [.perform (.startDebug (.ok .sample)), .perform (.step false), .happen (.haltNow 0x2200),
        .perform .waitForHalt]
    ∃ reports w reports' w', push.Plays acts reports w ∧ poll.Plays acts reports' w' ∧
      reports.map (·.world.1.phase) = [.paused, .armed, .paused] ∧
      List.Forall₂ Report.Agrees reports reports' ∧ w.Agrees w' := by
  intro device push poll acts
  obtain ⟨hagree, hplays⟩ := push_poll_interchangeable device false ⟨.push, 200⟩ ⟨.poll, 1⟩ nofun
    nofun (by decide) (by decide) acts
  let begun := push.run (.startDebug (.ok .sample))
  let halted := (begun.run (.step false)).after (.haltNow 0x2200)
  let result (w : World) (errand : Errand) :=
    (Routine.run Controller.notify (errand.routine w.2.capabilities) w.1 w.2).result
  have hbegun : (result push (.startDebug (.ok .sample))).isSome := by decide +kernel
  have hgone : (result begun (.step false)).isSome := by decide +kernel
  have hhalted : (result halted .waitForHalt).isSome := by decide +kernel
  obtain ⟨_, hbegun⟩ := Option.isSome_iff_exists.1 hbegun
  obtain ⟨_, hgone⟩ := Option.isSome_iff_exists.1 hgone
  obtain ⟨_, hhalted⟩ := Option.isSome_iff_exists.1 hhalted
  have hruns : Allows (begun.run (.step false)) (.haltNow 0x2200) := by
    change SimulatedDevice.haltedAt _ = none
    decide +kernel
  have hpush : push.Plays acts _ _ :=
    .of_run hbegun (.of_run hgone (.happen .refl hruns (.of_run hhalted (.stop .refl))))
  obtain ⟨reports', w', hpoll⟩ := hplays.1 ⟨_, _, hpush⟩
  have hphases : [begun.1.phase, (begun.run (.step false)).1.phase,
      (halted.run .waitForHalt).1.phase] = [.paused, .armed, .paused] := by decide +kernel
  exact ⟨_, _, reports', w', hpush, hpoll, hphases, hagree _ _ _ _ hpush hpoll⟩

end World

end BoardDebug
