import BoardDebug.Proofs.Session.Notes

namespace BoardDebug

open Relation Routine

namespace Polling

namespace Scene

variable {δ : Type} [Link δ]

def served (scene : Scene δ) (request : Request) (wait : Option Nat) : Scene δ :=
  { scene with
    link := (Link.serve scene.link request).link
    notes := scene.notes ++ scene.noted request (Link.serve scene.link request).answer wait }

/-- What happens besides the present session: the task of a former one goes on, or the device does
something. -/
inductive Goes (scene : Scene δ) : Scene δ → Prop where
  | former {session : Nat} {watch : Watch} {turn : Turn δ} :
      scene.former[session]? = some watch →
      watch.turn session scene.link scene.notes.length = turn →
      Goes scene
        { scene with
          link := turn.link
          former := scene.former.set session turn.watch
          notes := scene.notes ++ turn.notes }
  | device (link : δ) : Goes scene { scene with link }

theorem Goes.length {scene scene' : Scene δ} (h : scene.Goes scene') :
    scene'.former.length = scene.former.length := by
  cases h with
  | former hwatch hturn => exact List.length_set
  | device link => rfl

end Scene

variable {δ : Type} [Link δ]

/-- What happens to a session by itself: its task goes on, which is recorded in it, or an event
arrives. -/
inductive Stirs (listening : Bool) : Session × Scene δ → Session × Scene δ → Prop where
  | aside {s : Session} {scene scene' : Scene δ} : scene.Goes scene' →
      Stirs listening (s, scene) (s, scene')
  | turn {s : Session} {scene : Scene δ} {latch' : Latch} {stage' : Stage} {link' : δ}
      {more : List Note} {observer : Option Observer} :
      Watch.turn ⟨s.latch, scene.stage⟩ scene.former.length scene.link scene.notes.length =
        ⟨⟨latch', stage'⟩, link', more⟩ →
      stage'.Shows observer →
      Stirs listening (s, scene)
        ({ s with latch := latch', observer },
          { scene with link := link', stage := stage', notes := scene.notes ++ more })
  /-- The record of the task is brought up to date. -/
  | record {s : Session} {scene : Scene δ} {observer : Option Observer} :
      scene.stage.Shows observer → Stirs listening (s, scene) ({ s with observer }, scene)
  | told (event : Event) {s : Session} {scene : Scene δ} :
      Stirs listening (s, scene) (s.notify listening event, scene)

/-- What goes on around a call on a session. -/
def aroundSession (listening : Bool) : Surroundings Session (Scene δ) where
  answers request w answer w' :=
    answer = (Link.serve w.2.link request).answer ∧
      w' = ((Link.serve w.2.link request).events.foldl (fun s e => s.notify listening e) w.1,
        w.2.served request w.1.wait)
  happens := Stirs listening

/-- What becomes of a controller by itself. -/
def Happens (w w' : Controller × Scene δ) : Prop :=
  match w.1.session with
  | some s => ∃ s', Stirs w.1.listening (s, w.2) (s', w'.2) ∧ w'.1 = w.1.seat s'
  | none => w.2.Goes w'.2 ∧ w'.1 = w.1

/-- What goes on around a call on a controller. -/
def around : Surroundings Controller (Scene δ) where
  answers request w answer w' :=
    answer = (Link.serve w.2.link request).answer ∧
      w' = ((Link.serve w.2.link request).events.foldl (fun c e => c.notify e) w.1,
        w.2.served request (w.1.session.bind (·.wait)))
  happens := Happens

theorem houses_seat (c : Controller) :
    Call.Houses (·.session) Controller.seat c (aroundSession (δ := δ) c.listening) around where
  get_put _ := rfl
  put_put _ _ := rfl
  answers := by
    rintro request s scene answer w ⟨rfl, rfl⟩
    refine ⟨_, _, ?_, rfl, rfl⟩
    rw [(Controller.lodges_alone (δ := δ) c).foldl_notify]
    rfl
  happens := by
    rintro s scene ⟨c', scene'⟩ ⟨s', hstirs, hseat⟩
    obtain rfl : c' = c.seat s' := hseat
    exact ⟨s', scene', rfl, hstirs⟩

/-- One call on a controller, which stops somewhere, or what happens by itself. -/
inductive Leads (w : Controller × Scene δ) : Controller × Scene δ → Prop where
  | happen {w' : Controller × Scene δ} : Happens w w' → Leads w w'
  /-- A start has let go of the session and waits for its program. -/
  | compile : Leads w ({ w.1 with session := none, restPhase := .starting },
      w.2.retire (w.1.session.map (·.dropWait.latch)))
  | call (errand : Errand) {stop : Call.Stop (Except SessionError errand.Reply)}
      {w' : Controller × Scene δ} :
      Call.Stops around (errand.routine (Link.capabilities w.2.link) w.1) (w.2.before w.1 errand)
        stop w' →
      Leads w w'

/-- Whether a new controller that is to ask for halts can come to this, whatever its tasks and the
device do meanwhile and wherever calls on it are dropped. -/
def Reachable (w : Controller × Scene δ) : Prop :=
  ∃ config link, config.strategy = .poll ∧ ReflTransGen Leads (.new config, .new link) w

section Session

variable {s s' : Session} {scene scene' : Scene δ}

theorem notify_deaf (s : Session) (event : Event) : s.notify false event = s := by
  simp [Session.notify]

theorem foldl_notify_deaf (s : Session) (events : List Event) :
    events.foldl (fun s e => s.notify false e) s = s := by
  induction events with
  | nil => rfl
  | cons event events ih => rw [List.foldl_cons, notify_deaf, ih]

theorem not_reports_turn {k k' : Nat} (hne : k' ≠ k) (watch : Watch) (link : δ) (place : Nat) :
    ∀ note ∈ (watch.turn k link place).notes, ¬note.Reports k' :=
  fun _ hnote hreports => hne (hreports.session_eq.symm.trans (Watch.session_of_mem_turn hnote))

theorem Past.goes {count : Nat} (h : Past scene count) (hcount : scene.former.length ≤ count)
    (hgoes : scene.Goes scene') : Past scene' count := by
  cases hgoes with
  | device link => exact ⟨h.former, h.recorded⟩
  | @former k watch turn hwatch hturn =>
    subst hturn
    have hk : k < scene.former.length := (List.getElem?_eq_some_iff.1 hwatch).1
    have hsound := h.former k watch hwatch
    refine ⟨fun k' watch' hwatch' => ?_, h.recorded.turn hsound (by omega) scene.link⟩
    dsimp only at hwatch' ⊢
    obtain rfl | hne := eq_or_ne k k'
    · rw [List.getElem?_set_self hk] at hwatch'
      cases hwatch'
      exact hsound.turn scene.link
    · rw [List.getElem?_set_ne hne] at hwatch'
      exact (h.former k' watch' hwatch').grow (not_reports_turn hne.symm _ _ _)

theorem Base.goes (h : Base s scene) (hgoes : scene.Goes scene') : Base s scene' := by
  have hpast := h.past.goes (Nat.le_succ _) hgoes
  cases hgoes with
  | device link => exact ⟨hpast, h.watch, h.shows⟩
  | @former k watch turn hwatch hturn =>
    subst hturn
    have hk : k < scene.former.length := (List.getElem?_eq_some_iff.1 hwatch).1
    refine ⟨?_, ?_, h.shows⟩
    · dsimp only at hpast ⊢
      rwa [List.length_set]
    · dsimp only
      rw [List.length_set]
      exact h.watch.grow (not_reports_turn (by omega) _ _ _)

theorem Base.stirs (h : Base s scene) (hstirs : Stirs false (s, scene) (s', scene')) :
    Base s' scene' := by
  cases hstirs with
  | aside hgoes => exact h.goes hgoes
  | record hshows => exact ⟨h.past, h.watch, hshows⟩
  | told event =>
    rw [notify_deaf]
    exact h
  | turn hturn hshows =>
    have hrecorded := h.past.recorded.turn h.watch (Nat.lt_succ_self _) scene.link
    have hwatch := h.watch.turn scene.link
    rw [hturn] at hrecorded hwatch
    refine ⟨⟨fun k other hother => ?_, hrecorded⟩, hwatch, hshows⟩
    have hk : k < scene.former.length := (List.getElem?_eq_some_iff.1 hother).1
    have hreports := not_reports_turn (Nat.ne_of_lt hk) ⟨s.latch, scene.stage⟩ scene.link
      scene.notes.length
    rw [hturn] at hreports
    exact (h.past.former k other hother).grow hreports

theorem Stirs.moves (h : Stirs false (s, scene) (s', scene')) :
    ∃ latch observer, s' = { s with latch, observer } ∧
      Moves s.latch scene.stage latch scene'.stage := by
  cases h with
  | aside hgoes =>
    refine ⟨s.latch, s.observer, rfl, ?_⟩
    cases hgoes <;> exact moves_refl _ _
  | record hshows => exact ⟨s.latch, _, rfl, moves_refl _ _⟩
  | told event =>
    rw [notify_deaf]
    exact ⟨s.latch, s.observer, rfl, moves_refl _ _⟩
  | turn hturn hshows =>
    have hcases := Watch.turn_cases ⟨s.latch, scene.stage⟩ scene.former.length scene.link
      scene.notes.length
    rw [hturn] at hcases
    exact ⟨_, _, rfl, hcases⟩

theorem Base.served (h : Base s scene) (request : Request) (wait : Option Nat) :
    Base s (scene.served request wait) := by
  have hlaunch : scene.noted request (Link.serve scene.link request).answer wait = [] ∨
      ∃ launched, scene.noted request (Link.serve scene.link request).answer wait =
        [.launched scene.former.length launched] := by
    unfold Scene.noted
    split
    · cases wait with
      | none => exact .inl rfl
      | some launched => exact .inr ⟨launched, rfl⟩
    · exact .inl rfl
  unfold Scene.served
  obtain hnone | ⟨launched, hsome⟩ := hlaunch
  · rw [hnone, List.append_nil]
    exact ⟨⟨h.past.former, h.past.recorded⟩, h.watch, h.shows⟩
  · rw [hsome]
    have hother : ∀ k, ∀ note ∈ [Note.launched scene.former.length launched], ¬note.Reports k := by
      intro k note hnote
      obtain rfl := List.mem_singleton.1 hnote
      exact id
    exact ⟨⟨fun k watch hwatch => (h.past.former k watch hwatch).grow (hother k),
      h.past.recorded.concat (Nat.lt_succ_self _) nofun nofun⟩, h.watch.grow (hother _), h.shows⟩

theorem spares_holds {kind : Session → Stage → Prop} (hkind : IsKept kind) :
    (aroundSession (δ := δ) false).Spares (Holds kind) := by
  rintro ⟨s, scene⟩ ⟨s', scene'⟩ hstirs ⟨hbase, hs⟩
  obtain ⟨latch, observer, rfl, hmoves⟩ := Stirs.moves hstirs
  exact ⟨hbase.stirs hstirs, hkind hs hmoves⟩

theorem holds_of_answers {kind : Session → Stage → Prop} {request : Request}
    {w w' : Session × Scene δ} {answer : Except LinkError request.Reply} (hw : Holds kind w)
    (h : (aroundSession false).answers request w answer w') : Holds kind w' := by
  obtain ⟨-, rfl⟩ := h
  rw [foldl_notify_deaf]
  exact ⟨hw.1.served request w.1.wait, hw.2⟩

theorem steady_holds {kind : Session → Stage → Prop} (hkind : IsKept kind)
    (hframe : ∀ s stage pending area status hasHalted, kind s stage →
      kind { s with pending, area, status, hasHalted } stage)
    (hfair : ∀ s stage, kind s stage → Fair s stage) :
    Session.Steady (aroundSession (δ := δ) false) (fun _ => Holds Fair) (Holds kind) where
  spares := spares_holds hkind
  held _ _ hw := ⟨hw.1, hfair _ _ hw.2⟩
  answers _ _ _ _ _ hw ha := holds_of_answers hw ha
  frame _ _ _ _ _ _ hw := ⟨⟨⟨hw.1.past.former, hw.1.past.recorded⟩, hw.1.watch, hw.1.shows⟩,
    hframe _ _ _ _ _ _ hw.2⟩

theorem steady_still (phase : Phase) :
    Session.Steady (aroundSession (δ := δ) false) (fun _ => Holds Fair) (Holds (Still phase)) :=
  steady_holds (fun hs hmoves => hs.moves hmoves) (fun _ _ _ _ _ _ hs => hs)
    fun _ _ hs => hs.fair

theorem spares_launched : (aroundSession (δ := δ) false).Spares Launched := by
  rintro ⟨s, scene⟩ ⟨s', scene'⟩ hstirs hlaunched wait hwait
  have hs := hlaunched wait
  cases hstirs with
  | aside hgoes =>
    cases hgoes with
    | device link => exact hs hwait
    | former hwatch hturn =>
      dsimp only
      rw [List.length_set]
      exact (hs hwait).grow _ (by simp)
  | turn hturn hshows => exact (hs hwait).grow _ (by simp)
  | record hshows => exact hs hwait
  | told event =>
    rw [notify_deaf] at hwait
    exact hs hwait

/-- A wait that was handed out before the device is set going is told of no halt before that. -/
theorem keeps_launch (phase : Phase) (hphase : phase ≠ .paused ∧ phase ≠ .armed) {request : Request}
    (hrequest : request.Launches) :
    Keeps (aroundSession (δ := δ) false) (fun _ => Holds Fair) (Holds (Readied phase))
      (do
        let _ ← ask request
        modify fun s => { s.setRunning with phase := .armed })
      (fun _ => Holds Runs) fun _ => Holds Fair := by
  have hkept : IsKept (Readied phase) := fun hs hmoves => hs.moves hmoves
  have hfair : ∀ w : Session × Scene δ, Holds (Readied phase) w → Holds Fair w :=
    fun w hw => ⟨hw.1, hw.2.fair hphase⟩
  have hask : Keeps (aroundSession (δ := δ) false) (fun _ => Holds Fair) (Holds (Readied phase))
      (ask request) (fun _ w => Holds (Readied phase) w ∧ Launched w)
      fun _ => Holds (Readied phase) := by
    refine keeps_ask (spares_holds hkept) (fun _ => (spares_holds hkept).and spares_launched)
      (fun _ => spares_holds hkept) hfair (fun _ w hw => hfair w hw.1) (fun _ => hfair)
      fun w answer w' hw ha => ?_
    have hw' := holds_of_answers hw ha
    obtain ⟨hanswer, rfl⟩ := ha
    rw [foldl_notify_deaf] at hw' ⊢
    cases answer with
    | error e => exact hw'
    | ok reply =>
      refine ⟨hw', fun wait hwait => ⟨w.2.notes.length, ?_, ?_⟩⟩
      all_goals
        simp only [Scene.served, ← hanswer]
        rw [hwait, Scene.noted_of_launches hrequest]
      · simp
      · exact List.getElem?_concat_length
  refine keeps_bind (hask.mono (fun _ hw => hw) (fun _ _ hw => hw) fun _ => hfair) fun _ =>
    keeps_modify fun w hw => ?_
  obtain ⟨⟨hbase, -, hbusy, wait, hwait, harmed, hpending⟩, hlaunched⟩ := hw
  have hrunning : (w.1.latch.setRunning).armed = some ⟨wait, true⟩ := by
    simp [Latch.setRunning, harmed]
  refine ⟨⟨hbase.past, ?_, hbase.shows⟩, rfl, wait, hwait,
    .inl ⟨hrunning, hpending⟩⟩
  refine hbase.watch.setRunning hbusy fun a ha => ?_
  obtain rfl := Option.some.inj (harmed.symm.trans ha)
  exact hlaunched wait hwait

theorem keeps_flashAndArm :
    Keeps (aroundSession (δ := δ) false) (fun _ => Holds Fair) (Holds (Still .starting))
      Session.flashAndArm (fun _ => Holds Fair) fun _ => Holds Fair := by
  have hfair : ∀ w : Session × Scene δ, Holds (Still .starting) w → Holds Fair w :=
    fun w hw => ⟨hw.1, hw.2.fair⟩
  have hsteady := steady_still (δ := δ) .starting
  unfold Session.flashAndArm
  refine keeps_get fun s => ?_
  cases s.table.entry? with
  | none => exact keeps_fail fun w hw => hfair w hw.2
  | some entry =>
    refine keeps_bind (m := fun _ => Holds (Still .starting))
      (keeps_modify fun w hw => hsteady.frame _ _ _ _ _ _ hw.2) fun _ => ?_
    have hask := hsteady.keeps_ask (Request.not_launches_setBreakpoints [entry.address])
    refine keeps_bind (hask.mono (fun _ hw => hw) (fun _ _ hw => hw) fun _ w hw => hfair w hw.2)
      fun _ => ?_
    refine keeps_bind (m := fun _ => Holds (Readied .flashing))
      (keeps_modify fun w hw => ?_) fun _ => keeps_get fun s => ?_
    · obtain ⟨hbase, -, hreadied⟩ := holds_arm hw
      exact ⟨⟨hbase.past, hbase.watch, hbase.shows⟩, rfl, hreadied⟩
    have hphase : Phase.flashing ≠ .paused ∧ Phase.flashing ≠ .armed := by decide
    have hflash : (Request.flash s.program.image).Launches := trivial
    exact (keeps_launch .flashing hphase hflash).mono (fun w hw => hw.2)
      (fun _ w hw => ⟨hw.1, hw.2.fair⟩) fun _ _ hw => hw

/-- A step is turned away, or it gives up a halt that has been dealt with. -/
theorem keeps_step (into : Bool) :
    Keeps (aroundSession (δ := δ) false) (fun _ => Holds Fair) (Holds Fair) (Session.step into)
      (fun _ => Holds Fair) fun _ => Holds Fair := by
  have hfair : ∀ phase, ∀ w : Session × Scene δ, Holds (Still phase) w → Holds Fair w :=
    fun _ w hw => ⟨hw.1, hw.2.fair⟩
  have hsteady := steady_still (δ := δ) .resuming
  unfold Session.step Session.expectPhase
  refine keeps_bind (m := fun _ => Holds (Still .paused)) (keeps_get fun s => ?_) fun _ =>
    keeps_get fun s => ?_
  · split
    · refine keeps_pure fun w hw => ?_
      obtain ⟨rfl, hbase, hs⟩ := hw
      exact ⟨hbase, hs.paused ‹_›⟩
    · exact keeps_fail fun w hw => hw.2
  cases s.current with
  | none => exact keeps_fail fun w hw => hfair _ w hw.2
  | some current =>
    dsimp only
    refine keeps_bind (m := fun _ => Holds (Still .resuming)) (keeps_modify fun w hw => ?_)
      fun _ => ?_
    · obtain ⟨-, hbase, -, hs⟩ := hw
      exact ⟨⟨hbase.past, hbase.watch, hbase.shows⟩, rfl, hs⟩
    have hask := hsteady.keeps_ask
      (Request.not_launches_setBreakpoints (s.table.successorAddresses current))
    refine keeps_bind (hask.mono (fun _ hw => hw) (fun _ _ hw => hw) fun _ w hw => hfair _ w hw.2)
      fun _ => ?_
    refine keeps_bind ((hsteady.keeps_writeStatus _).mono (fun _ hw => hw) (fun _ _ hw => hw)
      fun _ w hw => hfair _ w hw.2) fun _ => ?_
    refine keeps_bind (m := fun _ => Holds (Readied .resuming))
      (keeps_modify fun w hw => holds_arm hw) fun _ => ?_
    have hphase : Phase.resuming ≠ .paused ∧ Phase.resuming ≠ .armed := by decide
    have hresume : Request.resume.Launches := rfl
    exact (keeps_launch .resuming hphase hresume).mono (fun _ hw => hw)
      (fun _ w hw => ⟨hw.1, hw.2.fair⟩) fun _ _ hw => hw

/-- A wait that is over is dealt with: nobody waits any more, and the task is not at work. -/
theorem keeps_closeWait (outcome : HaltOutcome) (table : BreakpointTable) (index : ProcedureIndex) :
    Keeps (aroundSession (δ := δ) false) (fun _ => Holds Fair)
      (fun w => Base w.1 w.2 ∧ w.1.phase = .armed ∧ w.1.latch.armed = none ∧ ¬w.2.stage.IsBusy ∧
        w.1.table = table ∧ w.1.index = index)
      (Session.closeWait outcome) (fun _ => Holds Fair) fun _ => Holds Fair := by
  have hfair : ∀ w : Session × Scene δ, Holds (Silent table index) w → Holds Fair w :=
    fun _ hw => ⟨hw.1, hw.2.1.fair⟩
  have hsteady : Session.Steady (aroundSession (δ := δ) false) (fun _ => Holds Fair)
      (Holds (Silent table index)) :=
    steady_holds (fun hs hmoves => ⟨hs.1.moves hmoves, hs.2⟩) (fun _ _ _ _ _ _ hs => hs)
      fun _ _ hs => hs.1.fair
  unfold Session.closeWait
  refine keeps_bind (m := fun _ => Holds (Silent table index)) (keeps_modify fun w hw => ?_)
    fun _ => ?_
  · obtain ⟨hbase, hphase, harmed, hbusy, htable, hindex⟩ := hw
    have hunarmed : w.1.dropWait.latch.armed = none := by
      simpa [Latch.isArmed, harmed] using Session.isArmed_dropWait w.1
    refine ⟨hbase.dropWait, ⟨?_, Session.wait_dropWait _, hunarmed, hbusy⟩, ?_⟩
    all_goals rw [Session.dropWait_eq]
    · exact hphase
    · exact ⟨htable, hindex⟩
  cases outcome with
  | superseded => exact keeps_fail hfair
  | failed e => exact keeps_fail hfair
  | halted pc =>
    have hexplained : ∀ (s : Session) (scene : Scene δ), Holds (Silent table index) (s, scene) →
        Holds (Silent table index) ({ s with
          pending := [], current := some (s.table.resolve (s.place pc)) }, scene) := by
      intro s scene hs
      exact ⟨⟨⟨hs.1.past.former, hs.1.past.recorded⟩, hs.1.watch, hs.1.shows⟩, hs.2⟩
    refine (hsteady.keeps_halted pc (fun w hw => hw.2.2) hexplained).mono (fun _ hw => hw) ?_
      fun _ w hw => hfair w hw.2
    rintro message ⟨_, scene⟩ ⟨s, words, ⟨hbase, ⟨-, hs⟩, -⟩, rfl, -⟩
    have hstill : Still .paused { s with phase := .paused } scene.stage := ⟨rfl, hs⟩
    exact ⟨⟨hbase.past, hbase.watch, hbase.shows⟩, hstill.fair⟩

theorem keeps_waitForHalt :
    Keeps (aroundSession (δ := δ) false) (fun _ => Holds Fair) (Holds Fair) Session.waitForHalt
      (fun _ => Holds Fair) fun _ => Holds Fair := by
  intro s scene hs
  rw [Session.waitForHalt_eq]
  split
  case isFalse => exact hs
  case isTrue hphase =>
    intro w hpasses
    have hw : Holds (fun s stage => Fair s stage ∧ s.phase = .armed) w := by
      refine (spares_holds ?_).passes hpasses ⟨hs.1, hs.2, hphase⟩
      exact fun hs hmoves => ⟨isKept_fair hs.1 hmoves, hs.2⟩
    obtain ⟨hbase, hfair, hphase⟩ := hw
    refine ⟨⟨hbase, hfair⟩, fun outcome hready => ?_⟩
    have hquiet : w.1.latch.armed = none ∧ ¬w.2.stage.IsBusy := by
      obtain ⟨-, wait, hwait, ⟨-, hpending⟩ | ⟨harmed, hbusy, -⟩⟩ | ⟨-, -, harmed, hbusy⟩ :=
        hfair.armed hphase
      · -- A pending wait has no outcome.
        simp [Session.outcome?, hwait, hpending] at hready
      · exact ⟨harmed, hbusy⟩
      · exact ⟨harmed, hbusy⟩
    exact keeps_closeWait outcome w.1.table w.1.index _ _
      ⟨hbase, hphase, hquiet.1, hquiet.2, rfl, rfl⟩

theorem keeps_writeStatus (status : DebugStatus) :
    Keeps (aroundSession (δ := δ) false) (fun _ => Holds Fair) (Holds Fair)
      (Session.writeStatus status) (fun _ => Holds Fair) fun _ => Holds Fair := by
  have hsteady : Session.Steady (aroundSession (δ := δ) false) (fun _ => Holds Fair)
      (Holds Fair) :=
    steady_holds isKept_fair (fun _ _ _ _ _ _ hs => ⟨hs.1, hs.2⟩) fun _ _ hs => hs
  exact (hsteady.keeps_writeStatus status).mono (fun _ hw => hw) (fun _ _ hw => hw)
    fun _ _ hw => hw.2

end Session

section Controller

variable {α : Type} {w w' : Controller × Scene δ}

theorem Sound.happens (h : Sound w) (hhappens : Happens w w') : Sound w' := by
  unfold Happens at hhappens
  split at hhappens
  case h_1 s hsession =>
    obtain ⟨s', hstirs, hseat⟩ := hhappens
    have hw' : w' = (w.1.seat s', w'.2) := by rw [← hseat]
    rw [h.deaf] at hstirs
    rw [hw']
    exact h.seat ((spares_holds isKept_fair) _ _ hstirs (h.session s hsession))
  case h_2 hsession =>
    obtain ⟨hgoes, hc⟩ := hhappens
    have hpast := (h.rest hsession).goes (Nat.le_refl _) hgoes
    have hlength := hgoes.length
    refine ⟨hc ▸ h.deaf, hc ▸ h.strategy, fun s hs => ?_, fun _ => ?_⟩
    · rw [hc, hsession] at hs
      cases hs
    · rwa [hlength]

theorem keeps_onSession {call : Routine Session α}
    (h : Keeps (aroundSession (δ := δ) false) (fun _ => Holds Fair) (Holds Fair) call
      (fun _ => Holds Fair) fun _ => Holds Fair) :
    Keeps (around (δ := δ)) (fun _ => Sound) Sound (Controller.onSession call) (fun _ => Sound)
      fun _ => Sound := by
  intro c scene hsound
  cases hsession : c.session with
  | none =>
    unfold Controller.onSession
    simp only [hsession]
    exact hsound
  | some s =>
    have hhouses := houses_seat (δ := δ) c
    rw [hsound.deaf] at hhouses
    refine Slow.keeps_onSession hhouses hsession
      ((h s scene (hsound.session s hsession)).mono (fun _ w hw => hsound.seat hw) ?_)
    rintro (e | a) w hw
    · exact (hsound.seat hw).settle (.error e)
    · exact (hsound.seat hw).settle (.ok a)

theorem keeps_start (has : Capabilities) (compiled : Except CompileError Program) :
    Keeps (around (δ := δ)) (fun _ => Sound) Vacant (Controller.start has compiled) (fun _ => Sound)
      fun _ => Sound := by
  intro c scene hvacant
  rw [Controller.start_eq]
  cases hopening : Controller.opening has compiled c.config with
  | error e =>
    refine ⟨hvacant.deaf, hvacant.strategy, fun s hs => ?_, fun _ => hvacant.past⟩
    cases hs
  | ok begun =>
    obtain ⟨s, observer⟩ := begun
    obtain ⟨program, table, -, -, hinstall, rfl⟩ := Controller.opening_ok hopening
    rw [hvacant.strategy] at hinstall
    obtain rfl := install_of_poll hinstall
    have hshows : scene.stage.Shows (some (.poll c.config.pollInterval .fresh)) := by
      rw [hvacant.stage]
      exact trivial
    have hholds := holds_new hvacant.past hvacant.stage program table hshows
    have hsound : Sound (c.embark (.new program table (.poll c.config.pollInterval .fresh))
        (.poll c.config.pollInterval .fresh), scene) := by
      refine ⟨hvacant.embark, hvacant.strategy, fun s hs => ?_, fun hnone => ?_⟩
      · cases hs
        exact ⟨hholds.1, hholds.2.fair⟩
      · cases hnone
    have hhouses := houses_seat (δ := δ)
      (c.embark (.new program table (.poll c.config.pollInterval .fresh))
        (.poll c.config.pollInterval .fresh))
    rw [hsound.deaf] at hhouses
    refine Slow.keeps_onSession hhouses rfl
      ((keeps_flashAndArm _ scene hholds).mono (fun _ w hw => hsound.seat hw) ?_)
    rintro (e | a) w hw
    · exact (hsound.seat hw).settle (.error e : Except SessionError Unit)
    · exact (hsound.seat hw).settle (.ok a : Except SessionError Unit)

/-- Wherever an errand stops, it leaves a controller with true notes behind. -/
theorem keeps_errand (has : Capabilities) (errand : Errand) {c : Controller} {scene : Scene δ}
    (h : Sound (c, scene)) :
    (errand.routine has c).Keeps around (fun _ => Sound)
      (Returns (fun _ => Sound) fun _ => Sound) (scene.before c errand) := by
  have hdropped := h.vacant (fun s => s.dropWait.latch) fun s hs => hs.dropWait.watch
  have hwait : Keeps (around (δ := δ)) (fun _ => Sound) Sound Controller.waitForHalt
      (fun _ => Sound) fun _ => Sound := keeps_onSession keeps_waitForHalt
  cases errand with
  | start compiled => exact keeps_start has compiled _ _ hdropped
  | startDebug compiled =>
    exact keeps_bind (keeps_start has compiled) (fun _ => hwait) _ _ hdropped
  | waitForHalt => exact hwait _ _ h
  | step into => exact keeps_onSession (keeps_step into) _ _ h
  | handle command => exact keeps_onSession (keeps_step command.isInto) _ _ h
  | writeStatus status => exact keeps_onSession (keeps_writeStatus status) _ _ h
  | finish =>
    have hended := h.vacant (fun s => s.terminate.latch) fun s hs => hs.terminate.watch
    refine ⟨h.deaf, h.strategy, fun s hs => ?_, fun _ => hended.past⟩
    cases hs

theorem Leads.sound (h : Leads w w') (hw : Sound w) : Sound w' := by
  cases h with
  | happen hhappens => exact hw.happens hhappens
  | compile =>
    have hdropped := hw.vacant (fun s => s.dropWait.latch) fun s hs => hs.dropWait.watch
    refine ⟨hw.deaf, hw.strategy, fun s hs => ?_, fun _ => hdropped.past⟩
    cases hs
  | @call errand stop _ hstops =>
    have hkeeps := (keeps_errand _ errand hw).of_stops hstops
    rcases stop with (e | a) | during <;> exact hkeeps

theorem Reachable.sound (h : Reachable w) : Sound w := by
  obtain ⟨config, link, hstrategy, hleads⟩ := h
  induction hleads with
  | refl =>
    refine ⟨rfl, hstrategy, fun s hs => ?_, fun _ => ⟨by simp [Scene.new], recorded_nil⟩⟩
    cases hs
  | tail _ hlast ih => exact hlast.sound ih

end Controller

/-- Where a task stands that takes all steps at once which it can take without waiting. -/
def Stage.IsRest : Stage → Prop
  | idle | asking _ | ended => True
  | ticked | cleared | informed _ _ => False

section Bench

variable {bench : Bench} {scene : Scene Rig}

/-- The scene of a bench on which tasks take all steps at once that they can. -/
def Shown (rig : Rig) (scene : Scene Rig) : Prop :=
  scene.link = rig ∧ scene.stage.IsRest

theorem passes_seat {c : Controller} {p q : Session × Scene Rig}
    (h : ReflTransGen (Stirs c.listening) p q) :
    (around (δ := Rig)).Passes (c.seat p.1, p.2) (c.seat q.1, q.2) := by
  induction h with
  | refl => exact .refl
  | tail _ hlast ih => exact ih.tail ⟨_, hlast, rfl⟩

theorem passes_notify (c : Controller) (scene : Scene Rig) (events : List Event) :
    (around (δ := Rig)).Passes (c, scene) (events.foldl (fun c e => c.notify e) c, scene) := by
  refine Bench.passes_events (fun {c s} event hsession => ?_) c events
  have hpasses := passes_seat (c := c) (.single (.told event : Stirs c.listening (s, scene) _))
  rwa [Controller.seat_of_session hsession] at hpasses

theorem passes_link (c : Controller) (scene : Scene Rig) (rig : Rig) :
    (around (δ := Rig)).Passes (c, scene) (c, { scene with link := rig }) := by
  cases hsession : c.session with
  | none =>
    refine .single ?_
    simp only [around, Happens, hsession]
    exact ⟨.device rig, trivial⟩
  | some s =>
    have hpasses := passes_seat (c := c)
      (.single (.aside (.device rig) : Stirs c.listening (s, scene) _))
    rwa [Controller.seat_of_session hsession] at hpasses

/-- A session does something by itself, and its task has taken all steps that it can. -/
theorem passes_shown {c : Controller} {s s' : Session} {scene' : Scene Rig} {rig : Rig}
    (hsession : c.session = some s)
    (hstirs : ReflTransGen (Stirs c.listening) (s, scene) (s', scene'))
    (hshown : Shown rig scene') :
    ∃ scene', (around (δ := Rig)).Passes (c, scene) (c.seat s', scene') ∧ Shown rig scene' := by
  have hpasses := passes_seat hstirs
  rw [Controller.seat_of_session hsession] at hpasses
  exact ⟨scene', hpasses, hshown⟩

theorem controller_setStage {s : Session} (hsession : bench.controller.session = some s)
    (interval : Nat) (stage : PollStage) :
    (bench.setStage interval stage).controller =
      bench.controller.seat { s with observer := some (.poll interval stage) } := by
  simp only [Bench.setStage, Bench.modifySession, hsession, Option.map_some]
  rfl

/-- At its tick a task looks whether somebody waits, and asks only then. -/
theorem stirs_tick (listening : Bool) (s : Session) (rig : Rig) (former : List Watch)
    (notes : List Note) (interval latency now due : Nat) :
    ∃ scene' : Scene Rig,
      ReflTransGen (Stirs listening) (s, ⟨rig, former, .idle, notes⟩)
        ({ s with
            observer := some (.poll interval
              (PollStage.tick interval latency now due s.latch.isWaiting)) }, scene') ∧
      Shown rig scene' := by
  have hlooks : ∀ stage, (if s.latch.isWaiting then .cleared else .idle) = stage →
      Watch.turn ⟨s.latch, .ticked⟩ former.length rig (notes ++ []).length =
        ⟨⟨s.latch, stage⟩, rig, []⟩ := by
    rintro _ rfl
    rfl
  unfold PollStage.tick
  dsimp only
  generalize (if due + PollStage.tolerance < now then now + interval else due + interval) = next
  -- While it takes its steps, the task is recorded as before.
  let still : Session :=
    { s with latch := s.latch, observer := some (.poll interval (.asleep due)) }
  have hticks : Stirs listening (s, ⟨rig, former, .idle, notes⟩)
      (still, ⟨rig, former, .ticked, notes ++ []⟩) := .turn rfl trivial
  cases hwaiting : s.latch.isWaiting with
  | false =>
    have hidle := hlooks .idle (by rw [hwaiting]; rfl)
    have hidles : Stirs listening (still, ⟨rig, former, .ticked, notes ++ []⟩)
        ({ s with latch := s.latch, observer := some (.poll interval (.asleep next)) },
          ⟨rig, former, .idle, notes ++ [] ++ []⟩) := .turn hidle trivial
    exact ⟨_, .head hticks (.single hidles), rfl, trivial⟩
  | true =>
    have hcleared := hlooks .cleared (by rw [hwaiting]; rfl)
    have hclears : Stirs listening (still, ⟨rig, former, .ticked, notes ++ []⟩)
        (still, ⟨rig, former, .cleared, notes ++ [] ++ []⟩) := .turn hcleared trivial
    exact ⟨_, .head hticks (.head hclears (.single (.turn rfl trivial))), rfl, trivial⟩

/-- The task on a bench goes through the steps of a task that it takes without waiting. -/
theorem passes_poll {s : Session} {interval : Nat} {stage : PollStage}
    (hsession : bench.controller.session = some s)
    (hobserver : s.observer = some (.poll interval stage)) (hshown : Shown bench.rig scene)
    (hshows : scene.stage.Shows s.observer) :
    ∃ scene', (around (δ := Rig)).Passes (bench.controller, scene)
        ((bench.poll interval stage).controller, scene') ∧
      Shown (bench.poll interval stage).rig scene' := by
  obtain ⟨link, former, at', notes⟩ := scene
  obtain ⟨rfl, hrest⟩ := hshown
  rw [hobserver] at hshows
  cases stage with
  | ended => exact ⟨_, .refl, rfl, hrest⟩
  | fresh =>
    cases at' with
    | asking question | ended => exact hshows.elim
    | ticked | cleared | informed i answer => exact hrest.elim
    | idle =>
      have hbegin : Stage.idle.Shows (some (.poll interval (.begin interval bench.now))) := by
        unfold PollStage.begin
        split <;> exact trivial
      simp only [Bench.poll, controller_setStage hsession]
      exact passes_shown hsession (.single (.record hbegin)) ⟨rfl, trivial⟩
  | asleep due =>
    cases at' with
    | asking question | ended => exact hshows.elim
    | ticked | cleared | informed i answer => exact hrest.elim
    | idle =>
      have hwaits : bench.isWaiting = s.latch.isWaiting := by
        simp only [Bench.isWaiting, hsession]
      obtain ⟨scene', hstirs, hshown'⟩ := stirs_tick bench.controller.listening s bench.rig former
        notes interval (bench.rig.latency .queryHalt) bench.now due
      simp only [Bench.poll, controller_setStage hsession, hwaits]
      exact passes_shown hsession hstirs hshown'
  | asking due answered =>
    cases at' with
    | idle | ended => exact hshows.elim
    | ticked | cleared | informed i answer => exact hrest.elim
    | asking question =>
      simp only [Bench.poll, Bench.serve_queryHalt]
      have hanswered : Stirs bench.controller.listening
          (s, ⟨bench.rig, former, .asking question, notes⟩)
          ({ s with latch := s.latch, observer := some (.poll interval (.asking due answered)) },
            ⟨(bench.rig.serve .queryHalt).link, former,
              .informed notes.length (bench.rig.serve .queryHalt).answer,
              notes ++ [.answered former.length question (bench.rig.serve .queryHalt).answer]⟩) :=
        .turn rfl trivial
      generalize (bench.rig.serve .queryHalt).answer = answer at hanswered ⊢
      rcases answer with e | _ | pc
      all_goals
        simp only [Bench.setStage, Bench.modifySession, hsession, Option.map_some]
        exact passes_shown hsession (.head hanswered (.single (.turn rfl trivial))) ⟨rfl, trivial⟩

/-- What goes on around a controller on a bench goes on around it as here. -/
theorem hosts_polling : Bench.Hosts (around (δ := Rig)) Sound Shown where
  spares _ _ hhappens hw := hw.happens hhappens
  happen := by
    rintro bench scene time occasion hnext hshown hsound
    obtain ⟨alarm, rfl⟩ | hpolling := Bench.nextOccasion_spec hnext
    · exact ⟨_, (passes_link _ _ _).trans (passes_notify _ _ _), rfl, hshown.2⟩
    · obtain ⟨interval, stage, rfl, hobserver⟩ := Bench.polling_spec hpolling
      obtain ⟨s, hsession, hs⟩ := Option.bind_eq_some_iff.1 hobserver
      have hshows := (hsound.session s hsession).1.shows
      let bench : Bench := { bench with now := time }
      have hpasses : ∃ scene', (around (δ := Rig)).Passes (bench.controller, scene)
            ((bench.poll interval stage).controller, scene') ∧
          Shown (bench.poll interval stage).rig scene' :=
        passes_poll hsession hs hshown hshows
      exact hpasses
  serve := by
    rintro bench ⟨link, former, stage, notes⟩ request ⟨rfl, hrest⟩
    exact ⟨_, ⟨rfl, rfl⟩, rfl, hrest⟩

theorem Shown.before {rig : Rig} (h : Shown rig scene) (c : Controller) (errand : Errand) :
    Shown rig (scene.before c errand) := by
  have hretire : ∀ latch, Shown rig (scene.retire latch) := by
    rintro (_ | latch)
    · exact ⟨h.1, trivial⟩
    · exact ⟨h.1, trivial⟩
  cases errand with
  | start compiled | startDebug compiled | finish => exact hretire _
  | waitForHalt | step into | handle command | writeStatus status => exact h

/-- Whatever a bench does, its controller comes to nothing else than what is reached here. -/
theorem Reachable.call (h : Reachable (bench.controller, scene)) (hshown : Shown bench.rig scene)
    (timeout : Nat) (errand : Errand) :
    ∃ scene',
      Shown (bench.call timeout (errand.routine bench.rig.device.capabilities)).2.rig scene' ∧
      Reachable ((bench.call timeout (errand.routine bench.rig.device.capabilities)).2.controller,
        scene') := by
  obtain ⟨config, link, hstrategy, hleads⟩ := id h
  have hcapabilities : Link.capabilities scene.link = bench.rig.device.capabilities := by
    rw [hshown.1]
    rfl
  obtain ⟨stop, scene', -, hstops, hshown'⟩ := hosts_polling.drive (bench.now + timeout) bench
    (hshown.before bench.controller errand)
    (keeps_errand (Link.capabilities scene.link) errand h.sound)
  rw [← hcapabilities]
  exact ⟨scene', hshown', config, link, hstrategy, hleads.tail (.call errand hstops)⟩

theorem Reachable.pass (h : Reachable (bench.controller, scene)) (hshown : Shown bench.rig scene)
    (stop : Nat) : ∃ scene', Shown (bench.pass stop).rig scene' ∧
      Reachable ((bench.pass stop).controller, scene') := by
  obtain ⟨config, link, hstrategy, hleads⟩ := id h
  obtain ⟨scene', hpasses, hshown'⟩ := hosts_polling.proceed stop Bench.pass.never
    (bench.occasionBound stop) bench hshown h.sound
  have hlater := ReflTransGen.mono (fun _ _ => Leads.happen) _ _ hpasses
  exact ⟨scene', hshown', config, link, hstrategy, hleads.trans hlater⟩

/-- What a bench comes to after two errands and some time. -/
theorem Reachable.runs (h : Reachable (bench.controller, scene)) (hshown : Shown bench.rig scene)
    (first second : Errand) (timeout stop : Nat) :
    let call (bench : Bench) (errand : Errand) :=
      (bench.call timeout (errand.routine bench.rig.device.capabilities)).2
    ∃ scene' : Scene Rig,
      Reachable (((call (call bench first) second).pass stop).controller, scene') := by
  obtain ⟨scene₁, hshown₁, hfirst⟩ := h.call hshown timeout first
  obtain ⟨scene₂, hshown₂, hsecond⟩ := hfirst.call hshown₁ timeout second
  obtain ⟨scene₃, -, hended⟩ := hsecond.pass hshown₂ stop
  exact ⟨scene₃, hended⟩

end Bench

variable {w : Controller × Scene δ}

/-- With a controller that asks for halts, whatever its tasks do meanwhile, a wait is told of what
was answered to a question of its own session, asked after the device had been set going for that
wait. What a task fires its latch with is told to that wait and no other. A question that fails ends
the wait, and the task asks no more. -/
theorem told_of_own_run (h : Reachable w) :
    (∀ (session : Nat) (watch : Watch) (wait : Nat) (outcome : HaltOutcome),
      (watches w)[session]? = some watch → watch.latch.state wait = .ready outcome →
      outcome ≠ .superseded → ∃ place, FiredFor w.2.notes session place wait outcome) ∧
    (∀ (place session answer : Nat) (a : Armed),
      w.2.notes[place]? = some (.fired session answer (some a)) →
      ∃ watch outcome, (watches w)[session]? = some watch ∧
        FiredFor w.2.notes session place a.wait outcome ∧
        (watch.latch.state a.wait = .ready outcome ∨ watch.latch.state a.wait = .gone)) ∧
    ∀ (answer session question : Nat) (e : LinkError),
      w.2.notes[answer]? = some (.answered session question (.error e)) →
      (∃ watch, (watches w)[session]? = some watch ∧
        (watch.stage = .informed answer (.error e) ∨ watch.stage = .ended ∧
          ∃ (place : Nat) (armed : Option Armed),
            w.2.notes[place]? = some (.fired session answer armed) ∧
            ∀ a, armed = some a → watch.latch.state a.wait = .ready (.failed e) ∨
              watch.latch.state a.wait = .gone)) ∧
      ∀ (later : Nat) (armed : Option Armed), answer < later →
        w.2.notes[later]? ≠ some (.issued session armed) := by
  have hsound := h.sound
  have hrecorded := hsound.recorded
  have hknown : ∀ (place : Nat) (note : Note), w.2.notes[place]? = some note →
      ∃ watch, (watches w)[note.session]? = some watch := fun place note hnote =>
    ⟨_, List.getElem?_eq_getElem (hrecorded.known note (List.mem_of_getElem? hnote))⟩
  have hfired : ∀ (place session answer : Nat) (a : Armed),
      w.2.notes[place]? = some (.fired session answer (some a)) →
      ∃ watch outcome, (watches w)[session]? = some watch ∧
        FiredFor w.2.notes session place a.wait outcome ∧
        (watch.latch.state a.wait = .ready outcome ∨ watch.latch.state a.wait = .gone) := by
    intro place session answer a hnote
    obtain ⟨watch, hwatch⟩ := hknown place _ hnote
    obtain ⟨outcome, hfor⟩ := hrecorded.fired place session answer a hnote
    exact ⟨watch, outcome, hwatch, hfor, ((hsound.watch hwatch).told place _ _ hfor).2⟩
  refine ⟨fun session watch wait outcome hwatch => (hsound.watch hwatch).ready wait outcome, hfired,
    fun answer session question e hnote => ⟨?_, hrecorded.silent answer session question e hnote⟩⟩
  obtain ⟨watch, hwatch⟩ := hknown answer _ hnote
  obtain hinformed | ⟨hended, place, armed, hfire⟩ :=
    (hsound.watch hwatch).failed answer question e hnote
  · exact ⟨watch, hwatch, .inl hinformed⟩
  · refine ⟨watch, hwatch, .inr ⟨hended, place, armed, hfire, ?_⟩⟩
    rintro a rfl
    obtain ⟨watch', outcome, hwatch', hfor, htold⟩ := hfired place session answer a hfire
    obtain rfl := Option.some.inj (hwatch.symm.trans hwatch')
    obtain ⟨i, -, reply, ⟨question', -, -, hanswered⟩, houtcome, hfire'⟩ := hfor
    have hsame := hfire.symm.trans hfire'
    simp only [Option.some.injEq, Note.fired.injEq] at hsame
    obtain ⟨-, rfl, -⟩ := hsame
    cases hnote.symm.trans hanswered
    cases houtcome
    exact htold

/-- A session takes the place of another one, and is told of the halt that its own task asked
for. -/
theorem told_of_own_run_sample :
    ∃ (w : Controller × Scene Rig) (session : Nat) (watch : Watch) (place : Nat), Reachable w ∧
      (watches w)[session]? = some watch ∧ watch.latch.state 0 = .ready (.halted 0x2100) ∧
      FiredFor w.2.notes session place 0 (.halted 0x2100) := by
  let device : SimulatedDevice := { SimulatedDevice.sample [0x2200, 0x2100] with
    capabilities := ⟨false, true⟩ }
  let idle := Bench.new ⟨.poll, 200⟩ (.new device) .empty []
  have hidle : Reachable (idle.controller, Scene.new idle.rig) := ⟨_, _, rfl, .refl⟩
  obtain ⟨scene, hreachable⟩ := hidle.runs ⟨rfl, trivial⟩
    (.start (.ok .sample)) (.start (.ok .sample)) 100 1000
  obtain ⟨w, hw, hready⟩ : ∃ w : Controller × Scene Rig, Reachable w ∧
      w.1.session.map (·.latch.state 0) = some (.ready (.halted 0x2100)) := by
    refine ⟨_, hreachable, ?_⟩
    dsimp only
    decide +kernel
  obtain ⟨s, hsession, hstate⟩ := Option.map_eq_some_iff.1 hready
  have hwatch := getElem?_watches hsession
  obtain ⟨place, hfired⟩ := (told_of_own_run hw).1 _ _ 0 _ hwatch hstate nofun
  exact ⟨w, _, _, place, hw, hwatch, hstate, hfired⟩

end Polling

end BoardDebug
