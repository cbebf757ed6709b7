import BoardDebug.Proofs.Session.Errands
import BoardDebug.Proofs.Session.Failure

namespace BoardDebug

open Call

/-- The statuses that are to be written before the session is ended. -/
def Errand.written : List Errand → List DebugStatus
  | [] => []
  | finish :: _ => []
  | writeStatus status :: errands => status :: written errands
  | _ :: errands => written errands

namespace World

/-- There is no session, or one that failed and that nothing observes. -/
def IsTorn (w : World) : Prop :=
  ∀ s, w.1.session = some s → s.phase = .terminated ∧ s.observer = none

/-- The status that the session takes to be in its cell. -/
def known (w : World) : Option (Option DebugStatus) :=
  w.1.session.map (·.status)

/-- A device has got no further request, and its memory is as it was. -/
def Untouched (w w' : World) : Prop :=
  w'.2.log = w.2.log ∧ w'.2.memory = w.2.memory

variable {w w' : World}

theorem IsTorn.isDown (hw : w.IsTorn) : w.1.IsDown := fun s hs => (hw s hs).1

theorem isTorn_of_none (h : w.1.session = none) : w.IsTorn := by
  intro s hs
  rw [h] at hs
  cases hs

theorem AtRest.isTorn (hw : w.AtRest) (hphase : w.1.phase = .terminated) : w.IsTorn := by
  intro s hs
  exact ⟨(Controller.phase_of_session hs).symm.trans hphase, (hw.closed hphase hs).observer⟩

theorem IsTorn.after (hw : w.IsTorn) (incident : Incident) :
    (w.after incident).IsTorn ∧ (w.after incident).known = w.known ∧
      Untouched w (w.after incident) := by
  obtain ⟨c, d⟩ := w
  cases hsession : c.session with
  | none =>
    obtain ⟨d', hafter, hmemory, hlog⟩ := after_of_none hsession d incident
    rw [hafter]
    exact ⟨isTorn_of_none hsession, rfl, hlog, hmemory⟩
  | some s =>
    obtain ⟨s', d', hafter, hstirs⟩ := stirs_after c s d incident
    rw [Controller.seat_of_session hsession] at hafter
    obtain ⟨hphase, hobserver⟩ := hw s hsession
    rw [hafter]
    have hphase' := hstirs.phase
    have hlog := hstirs.silent hobserver
    have hmemory := hstirs.memory
    obtain ⟨⟨latch, observer, -, hnone⟩, -, -, -⟩ := hstirs
    refine ⟨?_, ?_, hlog, hmemory⟩
    · rintro s'' hs
      cases hs
      exact ⟨hphase'.trans hphase, hnone hobserver⟩
    · simp only [known, hsession, Option.map_some]
      rfl

theorem isTorn_seat {s : Session} (hphase : s.phase = .terminated) (hobserver : s.observer = none)
    (c : Controller) (d : SimulatedDevice) : IsTorn (c.seat s, d) := by
  rintro s' hs
  cases hs
  exact ⟨hphase, hobserver⟩

/-- A status that is known to be in the cell is not written, any other one is asked to be. -/
theorem IsTorn.writeStatus {c : Controller} {d : SimulatedDevice} {status : DebugStatus}
    {r : Run Controller SimulatedDevice (Except SessionError Bool)} (hw : IsTorn (c, d))
    (h : Outcome Controller.notify Happens (Controller.writeStatus status c) d r) :
    (∀ status' ∈ known (c, d), status' = some status) ∧ r.state = c ∧ r.link = d ∨
      (¬∀ status' ∈ known (c, d), status' = some status) ∧
        d.log.length < r.link.log.length ∧ IsTorn (r.state, r.link) := by
  obtain ⟨hsession, rfl⟩ | ⟨s, run, hsession, hrun, rfl⟩ := Controller.outcome_onSession h
  · exact .inl ⟨by simp [known, hsession], rfl, rfl⟩
  · obtain ⟨hphase, hobserver⟩ := hw s hsession
    have hknown : (∀ status' ∈ known (c, d), status' = some status) ↔ s.status = some status := by
      simp [known, hsession]
    have hends := Session.ends_outcome_writeStatus hrun
    rw [hknown]
    obtain ⟨_ | e | written, s', d'⟩ := run
    · exact hends.elim
    · obtain ⟨hne, hbreaks, hlog⟩ := hends
      have hnot := (Session.not_harmless_of_breaks hbreaks).1
      rw [Controller.adopt_of_error (e := e) rfl, if_neg (by simp [hnot])]
      exact .inr ⟨hne, hlog, isTorn_seat rfl rfl c d'⟩
    · obtain ⟨rfl, rfl⟩ := hends
      have hadopt : c.adopt ⟨some (.ok written), s.mark status d, d.mark s status⟩ =
          ⟨some (.ok written), c.seat (s.mark status d), d.mark s status⟩ := rfl
      rw [hadopt]
      unfold Session.mark SimulatedDevice.mark
      split
      case isTrue hstatus =>
        exact .inl ⟨hstatus, Controller.seat_of_session hsession, rfl⟩
      case isFalse hstatus =>
        refine .inr ⟨hstatus, ?_, ?_⟩
        · have hinform := Session.length_log_inform d s.area
          simp only [SimulatedDevice.store, SimulatedDevice.note, List.length_append,
            List.length_singleton]
          omega
        · rintro s' hs
          cases hs
          exact ⟨hphase, hobserver⟩

/-- Errands that do not begin a session make no request, unless one is to write a status that is
not known to be in the cell. -/
theorem IsTorn.course {errands : List Errand} (hcourse : Course w errands w') (hw : w.IsTorn)
    (hopens : ∀ errand ∈ errands, ¬errand.Opens) :
    w.2.log.length ≤ w'.2.log.length ∧
      (Untouched w w' ↔
        ∀ known ∈ w.known, ∀ status ∈ Errand.written errands, known = some status) := by
  induction hcourse with
  | stay w => exact ⟨Nat.le_refl _, by simp [Untouched, Errand.written]⟩
  | @happen w w' errands incident _ ih =>
    obtain ⟨htorn, hknown, hlog, hmemory⟩ := hw.after incident
    have hih := ih htorn hopens
    rw [hknown, hlog] at hih
    refine ⟨hih.1, Iff.trans ?_ hih.2⟩
    unfold Untouched
    rw [hlog, hmemory]
  | @perform w w' errand errands r hperforms _ ih =>
    have hlater : ∀ later ∈ errands, ¬later.Opens := fun later hlater =>
      hopens later (List.mem_cons_of_mem _ hlater)
    have hnot := hopens errand List.mem_cons_self
    -- What needs a session that goes on is turned away. That leaves the end and the writes.
    by_cases hguarded : errand.IsGuarded
    · obtain ⟨e, -, rfl⟩ := errand.refuses_of_isDown hperforms hguarded hw.isDown
      have hwritten : Errand.written (errand :: errands) = Errand.written errands := by
        cases errand <;> first | rfl | exact hguarded.elim
      rw [hwritten]
      exact ih hw hlater
    cases errand with
    | start compiled => exact absurd trivial hnot
    | startDebug compiled => exact absurd trivial hnot
    | waitForHalt => exact absurd trivial hguarded
    | step into => exact absurd trivial hguarded
    | handle command => exact absurd trivial hguarded
    | finish =>
      cases hperforms
      have hih := ih (isTorn_of_none rfl) hlater
      have hnone : known (w.1.finish, w.2) = none := rfl
      refine ⟨hih.1, by simp [Errand.written], fun _ => hih.2.2 ?_⟩
      simp [hnone]
    | writeStatus status =>
      obtain ⟨hstatus, hstate, hlink⟩ | ⟨hstatus, hlog, htorn⟩ := hw.writeStatus hperforms
      · rw [hstate, hlink] at ih
        obtain ⟨hlog, huntouched⟩ := ih hw hlater
        refine ⟨hlog, huntouched.trans ?_⟩
        simp only [Errand.written, List.forall_mem_cons]
        exact forall₂_congr fun known hknown => ⟨fun h => ⟨hstatus known hknown, h⟩, fun h => h.2⟩
      · -- The log has grown, and no later errand makes it shorter.
        have hlonger := (ih htorn hlater).1
        dsimp only at hlonger
        refine ⟨by omega, fun huntouched => ?_, fun hall => ?_⟩
        · have hlength := congrArg List.length huntouched.1
          omega
        · exact absurd (fun known hknown => hall known hknown status List.mem_cons_self) hstatus

/-- After a failure a device is left alone until the next start, if and only if no status is to be
written but the one that is known to be in the cell. -/
theorem terminated_untouched {errands : List Errand} (h : w.Reachable)
    (hphase : w.1.phase = .terminated) (hcourse : Course w errands w')
    (hopens : ∀ errand ∈ errands, ¬errand.Opens) :
    Untouched w w' ↔ ∀ s, w.1.session = some s →
      ∀ status ∈ Errand.written errands, s.status = some status := by
  refine (IsTorn.course hcourse (h.atRest.isTorn hphase) hopens).2.trans ?_
  simp [known]

/-- A step that fails leaves a session that can be used and ended without a request. -/
theorem step_failure_untouched :
    let w : World :=
      (.new .standard, (SimulatedDevice.sample [0x2100]).inject (.talk Opcode.resume))
    let w := (w.run (.startDebug (.ok .sample))).run (.step false)
    let errands : List Errand :=
      [.writeStatus .breakpoints, .waitForHalt, .handle .stepInto, .finish,
        .writeStatus .singleStep]
    w.1.phase = .terminated ∧ Untouched w (errands.foldl run w) := by
  intro begun w errands
  have hreachable : w.Reachable :=
    ⟨_, _, _, Course.of_run begun [.startDebug (.ok .sample), .step false]⟩
  have hphase : w.1.phase = .terminated := by decide +kernel
  have hknown : w.known = some (some .breakpoints) := by decide +kernel
  refine ⟨hphase, (terminated_untouched hreachable hphase (Course.of_run w errands) ?_).2 ?_⟩
  · simp [errands, Errand.Opens]
  · intro s hs
    simp only [known, hs, Option.map_some, Option.some.injEq] at hknown
    simp [errands, Errand.written, hknown]

/-- A failed session still writes a status to its device. -/
theorem terminated_write :
    let w : World := (.new .standard, (SimulatedDevice.sample [0x2100]).inject .readWords)
    let w := w.run (.startDebug (.ok .sample))
    let w' := w.run (.writeStatus .singleStep)
    w.Reachable ∧ w.1.phase = .terminated ∧ Course w [.writeStatus .singleStep] w' ∧
      w'.2.log = w.2.log ++ [.writeWords 0x20000000 [3]] ∧ ¬Untouched w w' := by
  intro begun w w'
  have hreachable : w.Reachable :=
    ⟨_, _, _, Course.of_run begun [.startDebug (.ok .sample)]⟩
  have hlog : w'.2.log = w.2.log ++ [.writeWords 0x20000000 [3]] := by decide +kernel
  refine ⟨hreachable, by decide +kernel, Course.of_run w [.writeStatus .singleStep], hlog, ?_⟩
  intro huntouched
  have hlength := congrArg List.length (hlog.symm.trans huntouched.1)
  simp at hlength

end World

end BoardDebug
