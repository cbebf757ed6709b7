import BoardDebug.Proofs.Session.World

namespace BoardDebug

open Call Relation

/-- What a tester does: an errand, or something that happens to the device. -/
inductive Act where
  | perform (errand : Errand)
  | happen (incident : Incident)

/-- What came of an errand, and the world after it. There is no result if it never completes. -/
structure Report where
  errand : Errand
  result : Option (Except SessionError errand.Reply)
  world : World

namespace World

/-- The task that asks for halts has gone on, as often as it likes and whenever it likes. -/
def Polls : World → World → Prop :=
  ReflTransGen fun w w' => ∃ now, w' = w.after (.poll now)

/-- What a tester may do: he halts the device only while it runs, and does not keep it from telling
whether it is halted. -/
def Allows (w : World) : Incident → Prop
  | .queueHalt _ => True
  | .haltNow _ => w.2.haltedAt = none
  | .inject kind => kind ≠ .queryHalt
  | .poll _ => False

end World

namespace Call

/-- What comes of a call whose waits are waited for, and what is left to do then. While the device
runs and a wait goes on, the tester does what he has to do up to the next errand. A wait that
nothing brings to an end never completes. -/
inductive Follows {α : Type} : Call Controller α → SimulatedDevice → List Act →
    Run Controller SimulatedDevice α → List Act → Prop where
  | done (c : Controller) (result : α) (d : SimulatedDevice) (acts : List Act) :
      Follows (.done c result) d acts ⟨some result, c, d⟩ acts
  | ask {c : Controller} {request : Request}
      {next : Except LinkError request.Reply → Controller → Call Controller α}
      {d : SimulatedDevice} {acts rest : List Act} {run : Run Controller SimulatedDevice α} :
      Follows
        (next (Link.serve d request).answer
          ((Link.serve d request).events.foldl (fun c e => c.notify e) c))
        (Link.serve d request).link acts run rest →
      Follows (.ask c request next) d acts run rest
  | happen {c : Controller} {ready : Controller → Option HaltOutcome}
      {next : HaltOutcome → Controller → Call Controller α} {d : SimulatedDevice} {w : World}
      {incident : Incident} {acts rest : List Act} {run : Run Controller SimulatedDevice α} :
      World.Polls (c, d) w → ready w.1 = none → w.2.haltedAt = none → w.Allows incident →
      Follows (.await (w.after incident).1 ready next) (w.after incident).2 acts run rest →
      Follows (.await c ready next) d (.happen incident :: acts) run rest
  | woken {c : Controller} {ready : Controller → Option HaltOutcome}
      {next : HaltOutcome → Controller → Call Controller α} {d : SimulatedDevice} {w : World}
      {outcome : HaltOutcome} {acts rest : List Act} {run : Run Controller SimulatedDevice α} :
      World.Polls (c, d) w → ready w.1 = some outcome →
      Follows (next outcome w.1) w.2 acts run rest →
      Follows (.await c ready next) d acts run rest
  | never {c : Controller} {ready : Controller → Option HaltOutcome}
      {next : HaltOutcome → Controller → Call Controller α} {d : SimulatedDevice} {w : World}
      {acts : List Act} :
      World.Polls (c, d) w → (∀ w', w.Polls w' → ready w'.1 = none) →
      (∀ incident later, acts ≠ .happen incident :: later) →
      Follows (.await c ready next) d acts ⟨none, w.1, w.2⟩ acts

end Call

namespace World

/-- What comes of a script: each act follows the one before it, and each errand is waited for. -/
inductive Plays : World → List Act → List Report → World → Prop where
  | stop {w w' : World} : w.Polls w' → Plays w [] [] w'
  | happen {w w' w'' : World} {incident : Incident} {acts : List Act} {reports : List Report} :
      w.Polls w' → w'.Allows incident → Plays (w'.after incident) acts reports w'' →
      Plays w (.happen incident :: acts) reports w''
  | finish {w w' w'' : World} {errand : Errand} {acts rest : List Act} {reports : List Report}
      {result : Except SessionError errand.Reply} {c : Controller} {d : SimulatedDevice} :
      w.Polls w' →
      Follows (errand.routine w'.2.capabilities w'.1) w'.2 acts ⟨some result, c, d⟩ rest →
      Plays (c, d) rest reports w'' →
      Plays w (.perform errand :: acts) (⟨errand, some result, (c, d)⟩ :: reports) w''
  | never {w w' : World} {errand : Errand} {acts rest : List Act} {c : Controller}
      {d : SimulatedDevice} :
      w.Polls w' →
      Follows (errand.routine w'.2.capabilities w'.1) w'.2 acts ⟨none, c, d⟩ rest →
      Plays w (.perform errand :: acts) [⟨errand, none, (c, d)⟩] (c, d)

theorem Polls.happens {w w' : World} (h : w.Polls w') : ReflTransGen Happens w w' :=
  h.lift id fun _ _ ⟨now, hnow⟩ => ⟨.poll now, hnow⟩

theorem polls_after (w : World) (now : Nat) : w.Polls (w.after (.poll now)) :=
  .single ⟨now, rfl⟩

end World

namespace Call

variable {α β : Type} {call : Call Controller α} {d : SimulatedDevice} {acts rest : List Act}
  {run : Run Controller SimulatedDevice α}

/-- What comes of a call that is waited for is one of the things that may come of it. -/
theorem Follows.outcome (h : Follows call d acts run rest) :
    Outcome Controller.notify World.Happens call d run := by
  induction h with
  | done => exact .done _ _ _
  | ask _ ih => exact .ask ih
  | @happen c ready next d w incident acts rest run hpolls hready hruns hallows _ ih =>
    have hhappens := hpolls.happens.tail (b := w) ⟨incident, rfl⟩
    cases ih with
    | givenUp hlater => exact .givenUp (hhappens.trans hlater)
    | woken hlater houtcome hrest => exact .woken (hhappens.trans hlater) houtcome hrest
  | woken hpolls hready _ ih => exact .woken hpolls.happens hready ih
  | never hpolls => exact .givenUp hpolls.happens

/-- To run a call that comes to its end with nothing around it is what comes of it. -/
theorem follows_run (h : (call.run Controller.notify d).result.isSome) (acts : List Act) :
    Follows call d acts (call.run Controller.notify d) acts := by
  induction call generalizing d with
  | done c result => exact .done _ _ _ _
  | ask c request next ih => exact .ask (ih _ _ h)
  | await c ready next ih =>
    simp only [Call.run] at h ⊢
    cases hready : ready c with
    | none => simp [hready] at h
    | some outcome =>
      simp only [hready] at h
      exact .woken .refl hready (ih _ _ h)

theorem follows_of_isDirect (hcall : call.IsDirect) (d : SimulatedDevice) (acts : List Act) :
    Follows call d acts (call.run Controller.notify d) acts :=
  follows_run (isSome_run hcall d) acts

theorem Follows.eq_run (h : Follows call d acts run rest) (hcall : call.IsDirect) :
    run = call.run Controller.notify d ∧ rest = acts := by
  refine ⟨h.outcome.eq_run hcall, ?_⟩
  induction h with
  | done => rfl
  | ask _ ih => exact ih (hcall _ _)
  | happen => exact hcall.elim
  | woken => exact hcall.elim
  | never => rfl

/-- What comes of going on with `f` when a run is done. -/
def Continues (f : α → Controller → Call Controller β) (mid : Run Controller SimulatedDevice α)
    (left : List Act) (run : Run Controller SimulatedDevice β) (rest : List Act) : Prop :=
  match mid.result with
  | some a => Follows (f a mid.state) mid.link left run rest
  | none => run = ⟨none, mid.state, mid.link⟩ ∧ rest = left

variable {f : α → Controller → Call Controller β}

theorem Follows.of_bind {run : Run Controller SimulatedDevice β}
    (h : Follows (call.bind f) d acts run rest) :
    ∃ mid left, Follows call d acts mid left ∧ Continues f mid left run rest := by
  induction call generalizing d acts with
  | done c result => exact ⟨_, _, .done _ _ _ _, h⟩
  | ask c request next ih =>
    cases h with
    | ask h =>
      obtain ⟨mid, left, hmid, hrest⟩ := ih _ _ h
      exact ⟨mid, left, .ask hmid, hrest⟩
  | await c ready next ih =>
    -- The wait starts anew after each act, so that the induction is on what follows.
    generalize hwhole : (Call.await c ready next).bind f = whole at h
    induction h generalizing c with
    | done => cases hwhole
    | ask => cases hwhole
    | happen hpolls hready hruns hallows _ ihlater =>
      cases hwhole
      obtain ⟨mid, left, hmid, hrest⟩ := ihlater _ ih rfl
      exact ⟨mid, left, .happen hpolls hready hruns hallows hmid, hrest⟩
    | woken hpolls hready hlater _ =>
      cases hwhole
      obtain ⟨mid, left, hmid, hrest⟩ := ih _ _ hlater
      exact ⟨mid, left, .woken hpolls hready hmid, hrest⟩
    | never hpolls hready hacts =>
      cases hwhole
      exact ⟨_, _, .never hpolls hready hacts, rfl, rfl⟩

theorem Follows.bind {run : Run Controller SimulatedDevice β}
    {mid : Run Controller SimulatedDevice α} {left : List Act} (h : Follows call d acts mid left)
    (hrest : Continues f mid left run rest) : Follows (call.bind f) d acts run rest := by
  induction h with
  | done => exact hrest
  | ask _ ih => exact .ask (ih hrest)
  | happen hpolls hready hruns hallows _ ih =>
    exact .happen hpolls hready hruns hallows (ih hrest)
  | woken hpolls hready _ ih => exact .woken hpolls hready (ih hrest)
  | never hpolls hready hacts =>
    obtain ⟨rfl, rfl⟩ := hrest
    exact .never hpolls hready hacts

end Call

/-- An errand that comes to its end with nothing around it. -/
theorem World.Plays.of_run {w w' : World} {errand : Errand} {acts : List Act}
    {reports : List Report} {result : Except SessionError errand.Reply}
    (h : (Routine.run Controller.notify (errand.routine w.2.capabilities) w.1 w.2).result =
      some result) (hlater : Plays (w.run errand) acts reports w') :
    Plays w (.perform errand :: acts) (⟨errand, some result, w.run errand⟩ :: reports) w' := by
  have hfollows : Follows (errand.routine w.2.capabilities w.1) w.2 acts
      (Routine.run Controller.notify (errand.routine w.2.capabilities) w.1 w.2) acts :=
    follows_run (Option.isSome_of_eq_some h) acts
  refine .finish .refl ?_ hlater
  rw [← h]
  exact hfollows

end BoardDebug
