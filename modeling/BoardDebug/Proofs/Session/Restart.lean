import BoardDebug.Proofs.Session.Slow

namespace BoardDebug

open Relation Routine

/-- Something that is done to a device without its controller. -/
inductive Touch where
  | queueHalt (pc : UInt32)
  | haltNow (pc : UInt32)
  | inject (kind : RequestKind)
  | clearLog
  /-- Somebody else makes a request. -/
  | ask (request : Request)

/-- The device afterwards, and what it tells. -/
def Touch.effect (d : SimulatedDevice) : Touch → SimulatedDevice × List Event
  | queueHalt pc => (d.queueHalt pc, [])
  | haltNow pc => d.haltNow pc
  | inject kind => (d.inject kind, [])
  | clearLog => ({ d with log := [] }, [])
  | ask request => ((d.serve request).link, (d.serve request).events)

/-- What happens without a call. -/
inductive Happening where
  | touch (touch : Touch)
  /-- The task that asks for halts goes on, at some time. Those of the sessions that are over were
  stopped with them. -/
  | poll (now : Nat)

namespace World

def onward (w : World) : Happening → World
  | .touch touch => ((touch.effect w.2).2.foldl (fun c e => c.notify e) w.1, (touch.effect w.2).1)
  | .poll now => w.after (.poll now)

example (w : World) (pc : UInt32) : w.onward (.touch (.haltNow pc)) = w.after (.haltNow pc) := rfl

end World

/-- What happens while a call waits, and whether the call goes on then. If it does not, it is given
up. -/
structure Meanwhile where
  happenings : List Happening
  goesOn : Bool

namespace Call

variable {δ α : Type}

/-- What comes of a call that waits and then goes on with `next`. -/
def suspend (onward : Controller × δ → Happening → Controller × δ) (w : Controller × δ)
    (waits : List Meanwhile)
    (next : Controller × δ → List Meanwhile → Run Controller δ α) : Run Controller δ α :=
  match waits with
  | [] => ⟨none, w.1, w.2⟩
  | wait :: waits =>
    let w := wait.happenings.foldl onward w
    if wait.goesOn then next w waits else ⟨none, w.1, w.2⟩

variable [Link δ]

/-- What a call comes to, if this happens each time that it waits: before a request is served,
before its answer arrives, and until there is a halt. -/
def play (onward : Controller × δ → Happening → Controller × δ) :
    Call Controller α → δ → List Meanwhile → Run Controller δ α
  | done c result, link, _ => ⟨some result, c, link⟩
  | ask c request next, link, waits =>
    suspend onward (c, link) waits fun asked waits =>
      let served := Link.serve asked.2 request
      let told := (served.events.foldl (fun c e => c.notify e) asked.1, served.link)
      suspend onward told waits fun w waits => (next served.answer w.1).play onward w.2 waits
  | await c ready next, link, waits =>
    suspend onward (c, link) waits fun w waits =>
      match ready w.1 with
      | some outcome => (next outcome w.1).play onward w.2 waits
      | none => ⟨none, w.1, w.2⟩

/-- What goes on around a call on a controller. -/
def aroundPlay (onward : Controller × δ → Happening → Controller × δ) : Surroundings Controller δ :=
  .ofLink Controller.notify fun w w' => ∃ happening, w' = onward w happening

variable {onward : Controller × δ → Happening → Controller × δ}

theorem passes_iff {w w' : Controller × δ} :
    (aroundPlay onward).Passes w w' ↔
      ∃ happenings : List Happening, happenings.foldl onward w = w' := by
  constructor
  · intro h
    induction h with
    | refl => exact ⟨[], rfl⟩
    | tail _ hlast ih =>
      obtain ⟨happenings, rfl⟩ := ih
      obtain ⟨happening, rfl⟩ := hlast
      exact ⟨happenings ++ [happening], List.foldl_concat ..⟩
  · rintro ⟨happenings, rfl⟩
    induction happenings generalizing w with
    | nil => exact .refl
    | cons happening happenings ih => exact .head ⟨happening, rfl⟩ ih

/-- A call that waits is given up after some time, or goes on. -/
theorem suspend_of {holds : Run Controller δ α → Prop} {w : Controller × δ}
    {next : Controller × δ → List Meanwhile → Run Controller δ α}
    (hgivenUp : ∀ w', (aroundPlay onward).Passes w w' → holds ⟨none, w'.1, w'.2⟩)
    (hnext : ∀ w' later, (aroundPlay onward).Passes w w' → holds (next w' later))
    (waits : List Meanwhile) : holds (suspend onward w waits next) := by
  cases waits with
  | nil => exact hgivenUp w .refl
  | cons wait later =>
    have hpasses : (aroundPlay onward).Passes w (wait.happenings.foldl onward w) :=
      passes_iff.2 ⟨_, rfl⟩
    simp only [suspend]
    cases wait.goesOn with
    | false => exact hgivenUp _ hpasses
    | true => exact hnext _ later hpasses

/-- Whether a call may stop so. -/
def IsStop (around : Surroundings Controller δ) (call : Call Controller α) (link : δ)
    (run : Run Controller δ α) : Prop :=
  ∃ stop, stop.result? = run.result ∧ Stops around call link stop (run.state, run.link)

/-- A call comes to one of the ways in which it may stop. -/
theorem isStop_play (call : Call Controller α) (link : δ) (waits : List Meanwhile) :
    IsStop (aroundPlay onward) call link (call.play onward link waits) := by
  induction call generalizing link waits with
  | done c result => exact ⟨_, rfl, .done _ _ _⟩
  | ask c request next ih =>
    refine suspend_of (fun w hw => ⟨.dropped (some request), rfl, .unanswered hw⟩)
      (fun asked later hasked => ?_) waits
    refine suspend_of (fun w hw => ⟨.dropped (some request), rfl,
      .unheard ⟨_, _, hasked, ⟨rfl, rfl⟩, hw⟩⟩) (fun w later hw => ?_) later
    obtain ⟨stop, hresult, hstops⟩ := ih _ w.1 w.2 later
    exact ⟨stop, hresult, .answered ⟨_, _, hasked, ⟨rfl, rfl⟩, hw⟩ hstops⟩
  | await c ready next ih =>
    rw [play]
    refine suspend_of (fun w hw => ⟨.dropped none, rfl, .unwoken hw⟩) (fun w later hw => ?_) waits
    cases hready : ready w.1 with
    | none => exact ⟨.dropped none, rfl, .unwoken hw⟩
    | some outcome =>
      obtain ⟨stop, hresult, hstops⟩ := ih outcome w.1 w.2 later
      exact ⟨stop, hresult, .woken hw hready hstops⟩

/-- In whatever way a call may stop, it comes to that if the right things happen. -/
theorem Stops.exists_play {call : Call Controller α} {link : δ} {stop : Stop α}
    {w : Controller × δ} (h : Stops (aroundPlay onward) call link stop w) :
    ∃ waits, call.play onward link waits = ⟨stop.result?, w.1, w.2⟩ := by
  induction h with
  | done => exact ⟨[], rfl⟩
  | unanswered hpasses =>
    obtain ⟨happenings, rfl⟩ := passes_iff.1 hpasses
    exact ⟨[⟨happenings, false⟩], rfl⟩
  | unheard hanswered =>
    obtain ⟨_, _, hasked, ⟨rfl, rfl⟩, htold⟩ := hanswered
    obtain ⟨before, rfl⟩ := passes_iff.1 hasked
    obtain ⟨later, rfl⟩ := passes_iff.1 htold
    exact ⟨[⟨before, true⟩, ⟨later, false⟩], rfl⟩
  | answered hanswered _ ih =>
    obtain ⟨_, _, hasked, ⟨rfl, rfl⟩, htold⟩ := hanswered
    obtain ⟨before, rfl⟩ := passes_iff.1 hasked
    obtain ⟨later, rfl⟩ := passes_iff.1 htold
    obtain ⟨waits, hwaits⟩ := ih
    exact ⟨⟨before, true⟩ :: ⟨later, true⟩ :: waits, hwaits⟩
  | unwoken hpasses =>
    obtain ⟨happenings, rfl⟩ := passes_iff.1 hpasses
    exact ⟨[⟨happenings, false⟩], by rw [play]; rfl⟩
  | woken hpasses hready _ ih =>
    obtain ⟨happenings, rfl⟩ := passes_iff.1 hpasses
    obtain ⟨waits, hwaits⟩ := ih
    refine ⟨⟨happenings, true⟩ :: waits, ?_⟩
    simp only [play, suspend, hready, if_true]
    exact hwaits

end Call

/-- A device of which a handler is told when it halts. The handler has captured the latch of one of
the sessions, which are numbered in the order in which they began. -/
structure Hooked where
  device : SimulatedDevice
  /-- The latches of the sessions that are over. -/
  former : List Latch
  handler : Option Nat

namespace Hooked

/-- An event that reaches the latch of a session that is over. -/
def miss (handler : Option Nat) (former : List Latch) (event : Event) : List Latch :=
  match handler, haltPlace event.payload with
  | some session, .ok pc =>
    if event.code = Opcode.paused then former.modify session fun latch => (latch.fulfill pc).2
    else former
  | _, _ => former

/-- The handler is called. Only if it has captured the latch of the session in place, events come
through to that. -/
def route (line : Hooked) (device : SimulatedDevice) (events : List Event) : Hooked × List Event :=
  if line.handler = some line.former.length then ({ line with device }, events)
  else ({ line with device, former := events.foldl (miss line.handler) line.former }, [])

instance : Link Hooked where
  capabilities line := line.device.capabilities
  serve line request :=
    let served := line.device.serve request
    let routed := line.route served.link served.events
    ⟨served.answer, routed.1, routed.2⟩

/-- A session is over, and leaves its latch behind. -/
def retire (line : Hooked) (latch : Option Latch) : Hooked :=
  { line with former := line.former ++ latch.toList }

/-- A start that gets as far as that takes the handler for the session that it begins, if halts are
to be told of. -/
def hook (line : Hooked) (compiled : Except CompileError Program) (config : SessionConfig) :
    Hooked :=
  match Controller.opening line.device.capabilities compiled config with
  | .ok (_, .push) => { line with handler := some line.former.length }
  | _ => line

/-- The device on which an errand is run: a session that it ends is over. -/
def before (line : Hooked) (c : Controller) : Errand → Hooked
  | .start compiled | .startDebug compiled =>
    (line.retire (c.session.map (·.dropWait.latch))).hook compiled c.config
  | .finish => line.retire (c.session.map (·.terminate.latch))
  | .waitForHalt | .step _ | .handle _ | .writeStatus _ => line

end Hooked

namespace Restart

/-- A controller and the device that it debugs on, with the device's handler. -/
abbrev Setup := Controller × Hooked

def world (w : Setup) : World := (w.1, w.2.device)

def onward (w : Setup) : Happening → Setup
  | .touch touch =>
    let routed := w.2.route (touch.effect w.2.device).1 (touch.effect w.2.device).2
    (routed.2.foldl (fun c e => c.notify e) w.1, routed.1)
  | .poll now =>
    let after := (world w).after (.poll now)
    (after.1, { w.2 with device := after.2 })

/-- What is done with a controller or a device. -/
inductive Deed where
  | happen (happening : Happening)
  | perform (errand : Errand) (waits : List Meanwhile)
  /-- A start lets go of the session and waits for its program. It may be dropped then; if it is
  not, it goes on as any start does. -/
  | compile

/-- Whether a deed starts a session. -/
def Deed.Starts : Deed → Prop
  | happen _ => False
  | perform errand _ => errand.Opens
  | compile => True

/-- What an errand brought, if it was not given up. -/
abbrev Result := (errand : Errand) × Option (Except SessionError errand.Reply)

/-- What is there after a deed, and what it brought. -/
def perform (w : Setup) : Deed → Option Result × Setup
  | .happen happening => (none, onward w happening)
  | .perform errand waits =>
    let call := errand.routine w.2.device.capabilities w.1
    let run := call.play onward (w.2.before w.1 errand) waits
    (some ⟨errand, run.result⟩, run.state, run.link)
  | .compile =>
    (none, { w.1 with session := none, restPhase := .starting },
      w.2.retire (w.1.session.map (·.dropWait.latch)))

/-- What is seen after a deed. -/
structure Picture where
  result : Option Result
  phase : Phase
  session : Option Session
  device : SimulatedDevice

def pictures (w : Setup) : List Deed → List Picture
  | [] => []
  | deed :: later =>
    let done := perform w deed
    ⟨done.1, done.2.1.phase, done.2.1.session, done.2.2.device⟩ :: pictures done.2 later

/-- What a new controller comes to by some deeds, on a device on which others may have been at
work. -/
def Reachable (w : Setup) : Prop :=
  ∃ (config : SessionConfig) (line : Hooked) (deeds : List Deed),
    deeds.foldl (fun w deed => (perform w deed).2) (.new config, line) = w

end Restart

namespace Controller

/-- Events are lost on a controller that does not listen or has no session. -/
theorem foldl_notify_of_deaf {c : Controller} (h : c.listening = false ∨ c.session = none)
    (events : List Event) : events.foldl (fun c e => c.notify e) c = c := by
  induction events with
  | nil => rfl
  | cons event events ih =>
    have hevent : c.notify event = c := by
      obtain hdeaf | hnone := h
      · simp [notify, hdeaf]
      · exact notify_of_none hnone event
    rw [List.foldl_cons, hevent, ih]

end Controller

namespace SimulatedDevice

theorem capabilities_answer (d : SimulatedDevice) (request : Request) :
    (d.answer request).link.capabilities = d.capabilities := by
  cases request with
  | readWords | writeWords | flash | queryHalt => rfl
  | talk opcode payload =>
    unfold answer
    dsimp only
    split
    · rfl
    split
    · split <;> rfl
    split <;> rfl

theorem capabilities_serve (d : SimulatedDevice) (request : Request) :
    (d.serve request).link.capabilities = d.capabilities := by
  unfold serve
  split
  · rfl
  dsimp only
  split
  · rfl
  · exact capabilities_answer _ _

theorem capabilities_effect (d : SimulatedDevice) (touch : Touch) :
    (touch.effect d).1.capabilities = d.capabilities := by
  cases touch with
  | queueHalt | haltNow | inject | clearLog => rfl
  | ask request => exact d.capabilities_serve request

end SimulatedDevice

/-- The task that asks for halts asks a question, which does not change what the device can do. -/
theorem World.capabilities_poll (w : World) (now : Nat) :
    (w.after (.poll now)).2.capabilities = w.2.capabilities := by
  simp only [after]
  split
  case h_2 => rfl
  case h_1 interval stage hobserver =>
    cases stage with
    | fresh | asleep due | ended => rfl
    | asking due answered =>
      have hserve := serve_queryHalt_bench w now
      have hcapabilities := w.2.capabilities_serve .queryHalt
      simp only [Bench.poll, hserve]
      rcases (w.2.serve .queryHalt).answer with e | _ | pc
      all_goals exact hcapabilities

namespace Hooked

/-- Nothing about the handler and the number of sessions has changed, nor what the device can do. -/
structure Frames (line line' : Hooked) : Prop where
  capabilities : line'.device.capabilities = line.device.capabilities
  handler : line'.handler = line.handler
  length : line'.former.length = line.former.length

variable {line line' line'' : Hooked}

theorem frames_refl (line : Hooked) : line.Frames line := ⟨rfl, rfl, rfl⟩

theorem Frames.trans (h : line.Frames line') (h' : line'.Frames line'') : line.Frames line'' :=
  ⟨h'.capabilities.trans h.capabilities, h'.handler.trans h.handler, h'.length.trans h.length⟩

theorem length_foldl_miss (handler : Option Nat) (former : List Latch) (events : List Event) :
    (events.foldl (miss handler) former).length = former.length := by
  induction events generalizing former with
  | nil => rfl
  | cons event events ih =>
    rw [List.foldl_cons, ih]
    unfold miss
    split
    · split
      · exact List.length_modify ..
      · rfl
    · rfl

theorem device_route (line : Hooked) (device : SimulatedDevice) (events : List Event) :
    (line.route device events).1.device = device := by
  unfold route
  split <;> rfl

theorem frames_route (line : Hooked) {device : SimulatedDevice}
    (h : device.capabilities = line.device.capabilities) (events : List Event) :
    line.Frames (line.route device events).1 := by
  unfold route
  split
  · exact ⟨h, rfl, rfl⟩
  · exact ⟨h, rfl, length_foldl_miss _ _ _⟩

end Hooked

namespace Restart

variable {α : Type} {w w' : Setup} {c : Controller} {line line' : Hooked}

/-- If the session in place is to be told of halts, the handler has captured its latch. -/
def Tied (w : Setup) : Prop :=
  w.1.listening = true → w.1.session.isSome → w.2.handler = some w.2.former.length

/-- The handler is the right one, and a controller that has ever listened is to listen. -/
structure Sound (w : Setup) : Prop where
  tied : Tied w
  listens : w.1.listening = true →
    Observer.install w.2.device.capabilities w.1.config.strategy w.1.config.pollInterval =
      .ok .push

/-- Wherever the handler passes events on, it makes no difference that there is one. -/
theorem Tied.notify (h : Tied w) (device : SimulatedDevice) (events : List Event) :
    (w.2.route device events).2.foldl (fun c e => c.notify e) w.1 =
      events.foldl (fun c e => c.notify e) w.1 := by
  unfold Hooked.route
  split
  case isTrue => rfl
  case isFalse hhandler =>
    have hdeaf : w.1.listening = false ∨ w.1.session = none := by
      by_contra hhears
      rw [not_or, Bool.not_eq_false, ← ne_eq, ← Option.isSome_iff_ne_none] at hhears
      exact hhandler (h hhears.1 hhears.2)
    exact (Controller.foldl_notify_of_deaf hdeaf events).symm

theorem Tied.world_onward (h : Tied w) (happening : Happening) :
    world (onward w happening) = (world w).onward happening := by
  cases happening with
  | poll now => rfl
  | touch touch =>
    simp only [world, onward, World.onward, h.notify, Hooked.device_route]

theorem Tied.world_serve (h : Tied w) (request : Request) :
    world ((Link.serve w.2 request).events.foldl (fun c e => c.notify e) w.1,
        (Link.serve w.2 request).link) =
      ((Link.serve w.2.device request).events.foldl (fun c e => c.notify e) w.1,
        (Link.serve w.2.device request).link) := by
  simp only [world, Link.serve, h.notify, Hooked.device_route]

def around : Surroundings Controller Hooked :=
  Call.aroundPlay onward

theorem world_foldl (happenings : List Happening) (h : ∀ w', around.Passes w w' → Tied w') :
    world (happenings.foldl onward w) = happenings.foldl World.onward (world w) := by
  induction happenings generalizing w with
  | nil => rfl
  | cons happening happenings ih =>
    have hfirst : around.Passes w (onward w happening) := .single ⟨happening, rfl⟩
    rw [List.foldl_cons, List.foldl_cons, ← (h w .refl).world_onward happening]
    exact ih fun w' hpasses => h w' (hfirst.trans hpasses)

/-- What a call comes to, without the handler. -/
def bare (run : Call.Run Controller Hooked α) : Call.Run Controller SimulatedDevice α :=
  ⟨run.result, run.state, run.link.device⟩

theorem bare_suspend {next : Setup → List Meanwhile → Call.Run Controller Hooked α}
    {next' : World → List Meanwhile → Call.Run Controller SimulatedDevice α}
    (htied : ∀ w', around.Passes w w' → Tied w')
    (hnext : ∀ w' later, around.Passes w w' → bare (next w' later) = next' (world w') later)
    (waits : List Meanwhile) :
    bare (Call.suspend onward w waits next) =
      Call.suspend World.onward (world w) waits next' := by
  cases waits with
  | nil => rfl
  | cons wait later =>
    have hpasses : around.Passes w (wait.happenings.foldl onward w) :=
      Call.passes_iff.2 ⟨_, rfl⟩
    simp only [Call.suspend]
    rw [← world_foldl wait.happenings htied]
    cases wait.goesOn with
    | false => rfl
    | true => exact hnext _ later hpasses

/-- A call that is sound wherever it waits comes to the same with and without a handler. -/
theorem bare_play {call : Call Controller α}
    (h : call.Keeps around (fun _ => Sound) (fun _ => Sound) line) (waits : List Meanwhile) :
    bare (call.play onward line waits) = call.play World.onward line.device waits := by
  induction call generalizing line waits with
  | done c result => rfl
  | ask c request next ih =>
    obtain ⟨hasked, hanswered⟩ := h
    refine bare_suspend (fun w hpasses => (hasked w hpasses).tied)
      (fun asked later hpasses => ?_) waits
    let served := Link.serve asked.2 request
    let told : Setup := (served.events.foldl (fun c e => c.notify e) asked.1, served.link)
    have hthen : ∀ w, around.Passes told w → Sound w ∧
        (next served.answer w.1).Keeps around (fun _ => Sound) (fun _ => Sound) w.2 :=
      fun w htold => hanswered _ w ⟨asked, told, hpasses, ⟨rfl, rfl⟩, htold⟩
    let later' (w : World) (waits : List Meanwhile) :=
      (next served.answer w.1).play World.onward w.2 waits
    have hnext : ∀ w waits, around.Passes told w →
        bare ((next served.answer w.1).play onward w.2 waits) = later' (world w) waits :=
      fun w waits hw => ih _ _ (hthen w hw).2 waits
    have hplay := bare_suspend (fun w hw => (hthen w hw).1.tied) hnext later
    rw [(hasked asked hpasses).tied.world_serve request] at hplay
    exact hplay
  | await c ready next ih =>
    rw [Call.play, Call.play]
    refine bare_suspend (fun w hpasses => (h w hpasses).1.tied) (fun w later hpasses => ?_) waits
    simp only [world]
    cases hready : ready w.1 with
    | none => rfl
    | some outcome => exact ih _ _ ((h w hpasses).2 outcome hready) later

/-- A call that is sound wherever it waits stays so. -/
theorem sound_play {call : Call Controller α}
    (h : call.Keeps around (fun _ => Sound) (fun _ => Sound) line) (waits : List Meanwhile) :
    Sound ((call.play onward line waits).state, (call.play onward line waits).link) := by
  obtain ⟨stop, -, hstops⟩ := Call.isStop_play call line waits
  have hsound := h.of_stops hstops
  cases stop <;> exact hsound

/-- What goes on around a call on a session of a controller. -/
def aroundSession : Surroundings Session Hooked where
  answers _ w _ w' := w.2.Frames w'.2
  happens w w' := w.2.Frames w'.2

theorem houses_seat (c : Controller) :
    Call.Houses (·.session) Controller.seat c aroundSession around where
  get_put _ := rfl
  put_put _ _ := rfl
  answers := by
    rintro request s line answer w ⟨-, rfl⟩
    rw [(Controller.lodges_alone (δ := Hooked) c).foldl_notify]
    exact ⟨_, _, rfl, line.frames_route (line.device.capabilities_serve request) _⟩
  happens := by
    rintro s line w ⟨happening, rfl⟩
    cases happening with
    | touch touch =>
      simp only [onward]
      rw [(Controller.lodges_alone (δ := Hooked) c).foldl_notify]
      exact ⟨_, _, rfl, line.frames_route (line.device.capabilities_effect touch) _⟩
    | poll now =>
      obtain ⟨s', d', hafter, -⟩ := World.stirs_after c s line.device (.poll now)
      have hcapabilities := World.capabilities_poll (c.seat s, line.device) now
      simp only [onward, world]
      rw [hafter] at hcapabilities ⊢
      exact ⟨s', _, rfl, hcapabilities, rfl, rfl⟩

theorem Sound.seat (h : Sound (c, line)) (hsession : c.session.isSome)
    (hframes : line.Frames line') (s : Session) : Sound (c.seat s, line') where
  tied hlistening _ := by
    rw [hframes.handler, hframes.length]
    exact h.tied hlistening hsession
  listens hlistening := by
    dsimp only
    rw [hframes.capabilities]
    exact h.listens hlistening

theorem Sound.settle (h : Sound (c, line)) (result : Except SessionError α) :
    Sound (c.settle result, line) := by
  cases result with
  | ok a => exact h
  | error e =>
    simp only [Controller.settle]
    split
    · exact h
    · exact ⟨fun hlistening hsession => h.tied hlistening (by simpa using hsession), h.listens⟩

theorem keeps_onSession (call : Routine Session α) (h : Sound (c, line)) :
    (Controller.onSession call c).Keeps around (fun _ => Sound) (fun _ => Sound) line := by
  cases hsession : c.session with
  | none =>
    unfold Controller.onSession
    simp only [hsession]
    exact h
  | some s =>
    have hsome : c.session.isSome := Option.isSome_of_eq_some hsession
    have hkeeps : (call s).Keeps aroundSession (fun _ w => line.Frames w.2)
        (fun _ w => line.Frames w.2) line :=
      Call.keeps_link line.Frames (fun hframes ha => hframes.trans ha)
        (fun hframes hh => hframes.trans hh) _ _ line.frames_refl
    refine Slow.keeps_onSession (houses_seat c) hsession (hkeeps.mono ?_ ?_)
    · exact fun _ w hframes => h.seat hsome hframes w.1
    · exact fun result w hframes => (h.seat hsome hframes w.1).settle result

theorem device_before (line : Hooked) (c : Controller) (errand : Errand) :
    (line.before c errand).device = line.device := by
  have hhook : ∀ (line : Hooked) compiled config,
      (line.hook compiled config).device = line.device := by
    intro line compiled config
    unfold Hooked.hook
    split <;> rfl
  cases errand with
  | start compiled | startDebug compiled => exact hhook _ compiled c.config
  | finish | waitForHalt | step | handle | writeStatus => rfl

/-- A session that is to be told of halts begins with the handler in its hands. -/
theorem Sound.embark (h : Sound (c, line)) {compiled : Except CompileError Program} {s : Session}
    {observer : Observer}
    (hopening : Controller.opening line.device.capabilities compiled c.config = .ok (s, observer)) :
    Sound (c.embark s observer, line.before c (.start compiled)) := by
  obtain ⟨program, table, -, -, hinstall, rfl⟩ := Controller.opening_ok hopening
  cases observer with
  | push =>
    refine ⟨fun _ _ => ?_, fun _ => ?_⟩
    · simp only [Hooked.before, Hooked.hook, Hooked.retire, hopening]
    · rw [device_before]
      exact hinstall
  | poll interval stage =>
    have hdeaf : ¬(c.embark (.new program table (.poll interval stage))
        (.poll interval stage)).listening = true := by
      intro hlistening
      have hlistens := h.listens (by simpa [Controller.embark] using hlistening)
      dsimp only at hlistens
      rw [hinstall] at hlistens
      cases hlistens
    exact ⟨fun hlistening => absurd hlistening hdeaf, fun hlistening => absurd hlistening hdeaf⟩

theorem sound_of_none (h : Sound w) (hsession : c.session = none) (hconfig : c.config = w.1.config)
    (hlistening : c.listening = w.1.listening)
    (hcapabilities : line.device.capabilities = w.2.device.capabilities) : Sound (c, line) where
  tied _ hsome := by
    rw [hsession] at hsome
    cases hsome
  listens hlistens := by
    rw [hconfig, hcapabilities]
    exact h.listens (hlistening ▸ hlistens)

theorem keeps_start (h : Sound (c, line)) (compiled : Except CompileError Program) :
    (Controller.start line.device.capabilities compiled c).Keeps around (fun _ => Sound)
      (fun _ => Sound) (line.before c (.start compiled)) := by
  rw [Controller.start_eq]
  cases hopening : Controller.opening line.device.capabilities compiled c.config with
  | error e => exact sound_of_none h rfl rfl rfl (by rw [device_before])
  | ok begun => exact keeps_onSession _ (h.embark hopening)

theorem keeps_errand (h : Sound (c, line)) (errand : Errand) :
    (errand.routine line.device.capabilities c).Keeps around (fun _ => Sound) (fun _ => Sound)
      (line.before c errand) := by
  cases errand with
  | start compiled => exact keeps_start h compiled
  | startDebug compiled =>
    refine Call.Keeps.bind ((keeps_start h compiled).mono (fun _ _ hw => hw) ?_)
    rintro (e | _) w hw
    · exact hw
    · exact keeps_onSession _ hw
  | waitForHalt | step | handle | writeStatus => exact keeps_onSession _ h
  | finish => exact sound_of_none h rfl rfl rfl rfl

theorem Sound.onward (h : Sound w) (happening : Happening) : Sound (onward w happening) := by
  obtain ⟨c, line⟩ := w
  cases hsession : c.session with
  | some s =>
    obtain ⟨s', line', heq, hframes⟩ := (houses_seat c).happens (s := s) (d := line)
      (w := Restart.onward (c.seat s, line) happening) ⟨happening, rfl⟩
    rw [Controller.seat_of_session hsession] at heq
    rw [heq]
    exact h.seat (Option.isSome_of_eq_some hsession) hframes s'
  | none =>
    cases happening with
    | touch touch =>
      simp only [Restart.onward, Controller.foldl_notify_of_deaf (.inr hsession)]
      exact sound_of_none h hsession rfl rfl
        (line.frames_route (line.device.capabilities_effect touch) _).capabilities
    | poll now =>
      obtain ⟨d', hafter, -⟩ := World.after_of_none hsession line.device (.poll now)
      have hcapabilities := World.capabilities_poll (c, line.device) now
      simp only [Restart.onward, world]
      rw [hafter] at hcapabilities ⊢
      exact sound_of_none h hsession rfl rfl hcapabilities

theorem Sound.perform (h : Sound w) (deed : Deed) : Sound (perform w deed).2 := by
  cases deed with
  | happen happening => exact h.onward happening
  | perform errand waits => exact sound_play (keeps_errand h errand) waits
  | compile => exact sound_of_none h rfl rfl rfl rfl

theorem Reachable.sound (h : Reachable w) : Sound w := by
  obtain ⟨config, line, deeds, rfl⟩ := h
  have hnew : Sound (.new config, line) := ⟨nofun, nofun⟩
  generalize (Controller.new config, line) = start at hnew
  induction deeds generalizing start with
  | nil => exact hnew
  | cons deed deeds ih => exact ih _ (hnew.perform deed)

/-- Two controllers without a session, of which one may listen and the other not. -/
structure Vacant (c c' : Controller) : Prop where
  session : c.session = none
  session' : c'.session = none
  config : c.config = c'.config
  restPhase : c.restPhase = c'.restPhase

/-- Worlds that are the same, but for what a controller without a session listens to. -/
structure Twin (w w' : World) : Prop where
  controller : w.1 = w'.1 ∨ Vacant w.1 w'.1
  device : w.2 = w'.2

/-- Two calls that do the same, or nothing. -/
def Agree (call call' : Call Controller α) : Prop :=
  call = call' ∨ ∃ c c' result, call = .done c result ∧ call' = .done c' result ∧ Vacant c c'

theorem Agree.play {call call' : Call Controller α} (h : Agree call call') (d : SimulatedDevice)
    (waits : List Meanwhile) :
    let run := call.play World.onward d waits
    let run' := call'.play World.onward d waits
    run.result = run'.result ∧ Twin (run.state, run.link) (run'.state, run'.link) := by
  obtain rfl | ⟨c, c', result, rfl, rfl, hvacant⟩ := h
  · exact ⟨rfl, .inl rfl, rfl⟩
  · exact ⟨rfl, .inr hvacant, rfl⟩

/-- How a controller that listens if it has to begins a session does not depend on what it did
before. -/
theorem embark_eq {has : Capabilities} {compiled : Except CompileError Program} {s : Session}
    {observer : Observer} {c c' : Controller} (hconfig : c.config = c'.config)
    (hopening : Controller.opening has compiled c.config = .ok (s, observer))
    (h : c.listening = true →
      Observer.install has c.config.strategy c.config.pollInterval = .ok .push)
    (h' : c'.listening = true →
      Observer.install has c.config.strategy c.config.pollInterval = .ok .push) :
    c.embark s observer = c'.embark s observer := by
  obtain ⟨program, table, -, -, hinstall, rfl⟩ := Controller.opening_ok hopening
  have hlistening : (c.listening || observer == .push) = (c'.listening || observer == .push) := by
    cases observer with
    | push => simp
    | poll interval stage =>
      rw [hinstall] at h h'
      have hdeaf : c.listening = false := Bool.eq_false_iff.2 fun hlistens => by cases h hlistens
      have hdeaf' : c'.listening = false := Bool.eq_false_iff.2 fun hlistens => by cases h' hlistens
      rw [hdeaf, hdeaf']
  simp only [Controller.embark, hconfig, hlistening]

/-- A start comes to the same on two controllers, whatever sessions they have. -/
theorem agree_of_opens (hw : Sound w) (hw' : Sound w') (hconfig : w.1.config = w'.1.config)
    (hdevice : w.2.device = w'.2.device) {errand : Errand} (hopens : errand.Opens) :
    Agree (errand.routine w.2.device.capabilities w.1)
      (errand.routine w.2.device.capabilities w'.1) := by
  have hlistens := hw.listens
  have hlistens' := hw'.listens
  rw [← hdevice, ← hconfig] at hlistens'
  generalize w.2.device.capabilities = has at hlistens hlistens'
  have hstart : ∀ compiled,
      (∃ e, Controller.start has compiled w.1 = .done w.1.giveUp (.error e) ∧
        Controller.start has compiled w'.1 = .done w'.1.giveUp (.error e)) ∨
      Controller.start has compiled w.1 = Controller.start has compiled w'.1 := by
    intro compiled
    rw [Controller.start_eq, Controller.start_eq, ← hconfig]
    cases hopening : Controller.opening has compiled w.1.config with
    | error e => exact .inl ⟨e, rfl, rfl⟩
    | ok begun =>
      refine .inr ?_
      simp only [embark_eq hconfig hopening hlistens hlistens']
  have hvacant : Vacant w.1.giveUp w'.1.giveUp := ⟨rfl, rfl, hconfig, rfl⟩
  cases errand with
  | waitForHalt | step | handle | writeStatus | finish => exact hopens.elim
  | start compiled =>
    obtain ⟨e, he, he'⟩ | heq := hstart compiled
    · exact .inr ⟨_, _, _, he, he', hvacant⟩
    · exact .inl heq
  | startDebug compiled =>
    obtain ⟨e, he, he'⟩ | heq := hstart compiled
    · exact .inr ⟨_, _, .error e, congrArg (Call.bind _) he, congrArg (Call.bind _) he', hvacant⟩
    · exact .inl (congrArg (Call.bind _) heq)

theorem agree_of_vacant (hw : Sound w) (hw' : Sound w') (h : Vacant w.1 w'.1)
    (hdevice : w.2.device = w'.2.device) (errand : Errand) :
    Agree (errand.routine w.2.device.capabilities w.1)
      (errand.routine w.2.device.capabilities w'.1) := by
  have honSession : ∀ {β : Type} (call : Routine Session β),
      Agree (Controller.onSession call w.1) (Controller.onSession call w'.1) := by
    intro β call
    refine .inr ⟨_, _, .error .noSession, ?_, ?_, h⟩
    · simp only [Controller.onSession, h.session]
    · simp only [Controller.onSession, h.session']
  cases errand with
  | start | startDebug => exact agree_of_opens hw hw' h.config hdevice trivial
  | waitForHalt | step | handle | writeStatus => exact honSession _
  | finish => exact .inr ⟨_, _, .ok (), rfl, rfl, rfl, rfl, h.config, rfl⟩

theorem Twin.onward {w w' : World} (h : Twin w w') (happening : Happening) :
    Twin (w.onward happening) (w'.onward happening) := by
  obtain ⟨c, d⟩ := w
  obtain ⟨c', d'⟩ := w'
  obtain ⟨hsame | hvacant, hdevice⟩ := h
  all_goals
    dsimp only at *
    subst hdevice
  · subst hsame
    exact ⟨.inl rfl, rfl⟩
  · cases happening with
    | touch touch =>
      simp only [World.onward, Controller.foldl_notify_of_deaf (.inr hvacant.session),
        Controller.foldl_notify_of_deaf (.inr hvacant.session')]
      exact ⟨.inr hvacant, rfl⟩
    | poll now =>
      simp only [World.onward, World.after, hvacant.session, hvacant.session', Option.bind_none]
      exact ⟨.inr hvacant, rfl⟩

/-- What agrees on two controllers with the same device is seen to agree. -/
theorem perform_errand (hw : Sound w) (hw' : Sound w') (hdevice : w.2.device = w'.2.device)
    {errand : Errand} (h : Agree (errand.routine w.2.device.capabilities w.1)
      (errand.routine w.2.device.capabilities w'.1)) (waits : List Meanwhile) :
    (perform w (.perform errand waits)).1 = (perform w' (.perform errand waits)).1 ∧
      Twin (world (perform w (.perform errand waits)).2)
        (world (perform w' (.perform errand waits)).2) := by
  have hbare := bare_play (keeps_errand hw errand) waits
  have hbare' := bare_play (keeps_errand hw' errand) waits
  rw [device_before] at hbare
  rw [device_before, ← hdevice] at hbare'
  have hplay := h.play w.2.device waits
  dsimp only at hplay
  rw [← hbare, ← hbare'] at hplay
  obtain ⟨hresult, htwin⟩ := hplay
  simp only [bare] at hresult
  refine ⟨?_, ?_⟩
  · simp only [perform, ← hdevice, hresult]
  · simp only [perform, ← hdevice]
    exact htwin

theorem perform_twin (hw : Sound w) (hw' : Sound w') (h : Twin (world w) (world w')) (deed : Deed) :
    (perform w deed).1 = (perform w' deed).1 ∧
      Twin (world (perform w deed).2) (world (perform w' deed).2) := by
  cases deed with
  | happen happening =>
    refine ⟨rfl, ?_⟩
    simp only [perform, hw.tied.world_onward, hw'.tied.world_onward]
    exact h.onward happening
  | compile =>
    have hconfig : w.1.config = w'.1.config := by
      obtain hsame | hvacant := h.controller
      · exact congrArg Controller.config hsame
      · exact hvacant.config
    exact ⟨rfl, .inr ⟨rfl, rfl, hconfig, rfl⟩, h.device⟩
  | perform errand waits =>
    refine perform_errand hw hw' h.device ?_ waits
    obtain hsame | hvacant := h.controller
    · exact .inl (congrArg _ hsame)
    · exact agree_of_vacant hw hw' hvacant h.device errand

theorem Twin.picture {w w' : World} (h : Twin w w') :
    w.1.phase = w'.1.phase ∧ w.1.session = w'.1.session := by
  obtain hsame | hvacant := h.controller
  · rw [hsame]
    exact ⟨rfl, rfl⟩
  · refine ⟨?_, hvacant.session.trans hvacant.session'.symm⟩
    simp only [Controller.phase, hvacant.session, hvacant.session', hvacant.restPhase]

theorem pictures_cons {deed : Deed} {later : List Deed}
    (h : (perform w deed).1 = (perform w' deed).1 ∧
      Twin (world (perform w deed).2) (world (perform w' deed).2))
    (hlater : pictures (perform w deed).2 later = pictures (perform w' deed).2 later) :
    pictures w (deed :: later) = pictures w' (deed :: later) := by
  obtain ⟨hphase, hsession⟩ := h.2.picture
  have hdevice := h.2.device
  simp only [world] at hphase hsession hdevice
  simp only [pictures, h.1, hphase, hsession, hdevice, hlater]

theorem pictures_of_twin (hw : Sound w) (hw' : Sound w') (h : Twin (world w) (world w'))
    (deeds : List Deed) : pictures w deeds = pictures w' deeds := by
  induction deeds generalizing w w' with
  | nil => rfl
  | cons deed later ih =>
    have hdeed := perform_twin hw hw' h deed
    exact pictures_cons hdeed (ih (hw.perform deed) (hw'.perform deed) hdeed.2)

/-- A start takes no notice of what its controller did before: from then on the same is seen as with
a new controller on the same device. -/
theorem restart_independent (h : Reachable w) {first : Deed} (hstarts : first.Starts)
    (later : List Deed) (former : List Latch) (handler : Option Nat) :
    pictures w (first :: later) =
      pictures (.new w.1.config, ⟨w.2.device, former, handler⟩) (first :: later) := by
  have hnew : Sound (Controller.new w.1.config, ⟨w.2.device, former, handler⟩) := ⟨nofun, nofun⟩
  have hfirst : (perform w first).1 =
        (perform (.new w.1.config, ⟨w.2.device, former, handler⟩) first).1 ∧
      Twin (world (perform w first).2)
        (world (perform (.new w.1.config, ⟨w.2.device, former, handler⟩) first).2) := by
    cases first with
    | happen => exact hstarts.elim
    | compile => exact ⟨rfl, .inr ⟨rfl, rfl, rfl, rfl⟩, rfl⟩
    | perform errand waits =>
      exact perform_errand h.sound hnew rfl (agree_of_opens h.sound hnew rfl rfl hstarts) waits
  exact pictures_cons hfirst
    (pictures_of_twin (h.sound.perform first) (hnew.perform first) hfirst.2 later)

/-- A session is replaced that has been told of a halt, with a status that it has written. The new
one knows of neither, and halts elsewhere. -/
theorem restart_independent_sample :
    ∃ (w : Setup) (first : Deed) (later : List Deed), Reachable w ∧ first.Starts ∧
      w.1.session.map (fun s => (s.phase, s.outcome?, s.status)) =
        some (.armed, some (.halted 0x2100), some .breakpoints) ∧
      pictures w (first :: later) =
        pictures (.new w.1.config, ⟨w.2.device, [], none⟩) (first :: later) ∧
      (pictures w (first :: later)).map (fun p => (p.phase, p.device.haltedAt)) =
        [(.armed, none), (.armed, some 0x2300), (.paused, some 0x2300)] := by
  let patiently := List.replicate 20 (Meanwhile.mk [] true)
  let history : List Deed :=
    [.perform (.startDebug (.ok .sample)) patiently, .perform (.step false) patiently]
  let start : Setup := (.new .standard, ⟨.sample [0x2200, 0x2100], [], none⟩)
  let w := history.foldl (fun w deed => (perform w deed).2) start
  let first : Deed := .perform (.start (.ok .sample)) patiently
  let later : List Deed := [.happen (.touch (.haltNow 0x2300)), .perform .waitForHalt patiently]
  have hreachable : Reachable w := ⟨_, _, history, rfl⟩
  have hstarts : first.Starts := trivial
  exact ⟨w, first, later, hreachable, hstarts, by decide +kernel,
    restart_independent hreachable hstarts later [] none, by decide +kernel⟩

end Restart

end BoardDebug
