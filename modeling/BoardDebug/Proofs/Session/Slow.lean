import BoardDebug.Proofs.Call.Suspension
import BoardDebug.Proofs.Halt.Trace
import BoardDebug.Proofs.Session.Bench
import BoardDebug.Proofs.Session.Interchange

namespace BoardDebug

open Relation Routine

/-- Whether a request sets the device going. -/
def Request.Launches : Request → Prop
  | talk opcode _ => opcode = Opcode.resume
  | flash _ => True
  | _ => False

theorem Request.not_launches_setBreakpoints (addresses : List UInt32) :
    ¬(setBreakpoints addresses).Launches := by
  have hcodes : Opcode.setBreakpoints ≠ Opcode.resume := by decide
  exact hcodes

/-- A failure of the link ends the session. -/
theorem SessionError.not_harmless_of_isTransport {e : SessionError} (h : e.isTransport) :
    e.isHarmless = false := by
  cases e with
  | link => rfl
  | compile | noBreakpoints | noEntryBreakpoint | noSession | wrongPhase | superseded => cases h

namespace Session

/-- The place of a halt is looked up in the index. -/
theorem place_congr {s s' : Session} (h : s.index = s'.index) (pc : UInt32) :
    s.place pc = s'.place pc := by
  unfold place
  rw [h]

section Steady

variable {δ : Type}

/-- Something that is known of a session while a call on it is suspended, and that has nothing to do
with the device's memory. -/
structure Steady (around : Surroundings Session δ) (held : Option Request → Session × δ → Prop)
    (knows : Session × δ → Prop) : Prop where
  spares : around.Spares knows
  held : ∀ request w, knows w → held (some request) w
  answers : ∀ request w answer w', ¬request.Launches → knows w →
    around.answers request w answer w' → knows w'
  frame : ∀ s d pending area status hasHalted, knows (s, d) →
    knows ({ s with pending, area, status, hasHalted }, d)

namespace Steady

variable {around : Surroundings Session δ} {held : Option Request → Session × δ → Prop}
variable {knows : Session × δ → Prop} (h : Steady around held knows)

include h

theorem keeps_ask {request : Request} (hrequest : ¬request.Launches) :
    Keeps around held knows (ask request) (fun _ => knows) fun e w => e.isTransport ∧ knows w := by
  have hbad : ∀ e : SessionError, around.Spares fun w => e.isTransport ∧ knows w :=
    fun e w w' hhappens hw => ⟨hw.1, h.spares w w' hhappens hw.2⟩
  refine Routine.keeps_ask h.spares (fun _ => h.spares) hbad (h.held request)
    (fun _ => h.held request) (fun _ w hw => h.held request w hw.2) fun w answer w' hw ha => ?_
  have hw' := h.answers request w answer w' hrequest hw ha
  cases answer with
  | ok reply => exact hw'
  | error e => exact ⟨rfl, hw'⟩

theorem keeps_fetchArea :
    Keeps around held knows fetchArea (fun _ => knows) fun e w => e.isTransport ∧ knows w := by
  unfold fetchArea
  refine keeps_get fun s => ?_
  cases s.area with
  | some area => exact keeps_pure fun w hw => hw.2
  | none =>
    refine (keeps_bind (m := fun _ => knows) ?_ fun area => ?_).mono (fun w hw => hw.2)
      (fun _ _ hw => hw) fun _ _ hw => hw
    · have hask : Opcode.getGlobals ≠ Opcode.resume := by decide
      refine keeps_bind (h.keeps_ask hask) fun reply => ?_
      cases GlobalsArea.ofReply reply with
      | ok area => exact keeps_pure fun w hw => hw
      | error what => exact keeps_fail fun w hw => ⟨rfl, hw⟩
    · refine keeps_bind (m := fun _ => knows) (keeps_modify fun w hw => ?_) fun _ =>
        keeps_pure fun w hw => hw
      exact h.frame _ _ _ _ _ _ hw

theorem keeps_writeStatus (status : DebugStatus) :
    Keeps around held knows (writeStatus status) (fun _ => knows)
      fun e w => e.isTransport ∧ knows w := by
  unfold writeStatus
  refine keeps_get fun s => ?_
  split
  · exact keeps_pure fun w hw => hw.2
  · refine (keeps_bind h.keeps_fetchArea fun area => ?_).mono (fun w hw => hw.2)
      (fun _ _ hw => hw) fun _ _ hw => hw
    refine keeps_bind (h.keeps_ask id) fun _ => ?_
    refine keeps_bind (m := fun _ => knows) (keeps_modify fun w hw => ?_) fun _ =>
      keeps_pure fun w hw => hw
    exact h.frame _ _ _ _ _ _ hw

/-- What is told of a halt at `pc` is what the table makes of the place, with the words that the
device answered. -/
theorem keeps_halted (pc : UInt32) {table : BreakpointTable} {index : ProcedureIndex}
    (hknows : ∀ w, knows w → w.1.table = table ∧ w.1.index = index)
    (hexplained : ∀ s d, knows (s, d) →
      knows ({ s with pending := [], current := some (s.table.resolve (s.place pc)) }, d)) :
    Keeps around held knows (halted pc)
      (fun message w => ∃ s words, knows (s, w.2) ∧ w.1 = { s with phase := .paused } ∧
        message = .new (table.resolve (s.place pc)).id (.ofArea words index))
      fun e w => e.isTransport ∧ knows w := by
  unfold halted
  refine keeps_bind h.keeps_fetchArea fun area => keeps_get fun known => ?_
  have hknown : ∀ w : Session × δ, w.1 = known ∧ knows w →
      known.table = table ∧ known.index = index := by
    rintro w ⟨rfl, hw⟩
    exact hknows w hw
  refine keeps_fact hknown ?_
  rintro ⟨rfl, rfl⟩
  dsimp only
  have hsnapshot : Keeps around held (fun w => w.1 = known ∧ knows w)
      (Snapshot.take area known.index (some (known.place pc)))
      (fun snapshot w => (∃ words, snapshot.globals = .ofArea words known.index) ∧ knows w)
      fun e w => e.isTransport ∧ knows w := by
    unfold Snapshot.take
    refine (keeps_bind (h.keeps_ask id) fun words => ?_).under fun w hw => hw.2
    split
    · exact keeps_pure fun w hw => ⟨⟨words, rfl⟩, hw⟩
    · exact keeps_fail fun w hw => ⟨rfl, hw⟩
  refine keeps_bind hsnapshot fun snapshot => keeps_fact (fun w hw => hw.1) ?_
  rintro ⟨words, hglobals⟩
  refine keeps_bind (m := fun _ => knows) (keeps_modify fun w hw => ?_) fun _ => ?_
  · have hresolve : known.table.resolve (known.place pc) = w.1.table.resolve (w.1.place pc) := by
      rw [(hknows w hw.2).1, place_congr (hknows w hw.2).2]
    rw [hresolve]
    exact hexplained _ _ hw.2
  -- Whether the status is written or not, the call ends like this.
  have hend : Keeps around held knows
      (do
        modify fun s => { s with hasHalted := true, phase := .paused }
        return HaltMessage.new (known.table.resolve (known.place pc)).id snapshot.globals)
      (fun message w => ∃ s words, knows (s, w.2) ∧ w.1 = { s with phase := .paused } ∧
        message = .new (known.table.resolve (s.place pc)).id (.ofArea words known.index))
      fun e w => e.isTransport ∧ knows w := by
    refine keeps_bind (m := fun _ w => ∃ s, knows (s, w.2) ∧ w.1 = { s with phase := .paused })
      (keeps_modify fun w hw => ?_) fun _ => keeps_pure fun w hw => ?_
    · exact ⟨{ w.1 with hasHalted := true }, h.frame _ _ _ _ _ _ hw, rfl⟩
    · obtain ⟨s, hs, hw⟩ := hw
      exact ⟨s, words, hs, hw, by rw [place_congr (hknows _ hs).2, hglobals]⟩
  split
  · exact keeps_bind (h.keeps_writeStatus _) fun _ => hend
  · exact hend

end Steady

end Steady

section Latch

variable {s s' : Session}

/-- A session in some phase that has a wait, which counts. -/
def Poised (phase : Phase) (s : Session) : Prop :=
  s.phase = phase ∧ ∃ wait, s.wait = some wait ∧ s.latch.Serves wait

/-- A session in some phase that has no wait. -/
def Slack (phase : Phase) (s : Session) : Prop :=
  s.phase = phase ∧ s.wait = none

/-- If the wait of an armed session is there, it counts. A paused session has none. -/
structure Sound (s : Session) : Prop where
  armed : s.phase = .armed → s.Poised .armed ∨ s.Slack .armed
  paused : s.phase = .paused → s.wait = none

theorem Drift.poised {phase : Phase} (h : s.Drift s') (hs : s.Poised phase) : s'.Poised phase := by
  obtain ⟨latch, observer, hlatch, -⟩ := h
  obtain ⟨hphase, wait, hwait, hserves⟩ := hs
  refine ⟨hphase, wait, hwait, ?_⟩
  obtain rfl | ⟨outcome, houtcome, rfl⟩ := hlatch
  · exact hserves
  · exact hserves.complete houtcome

theorem Drift.slack {phase : Phase} (h : s.Drift s') (hs : s.Slack phase) : s'.Slack phase := by
  obtain ⟨latch, observer, -, -⟩ := h
  exact hs

theorem Drift.sound (h : s.Drift s') (hs : s.Sound) : s'.Sound := by
  have hphase : s'.phase = s.phase ∧ s'.wait = s.wait := by
    obtain ⟨latch, observer, -, -⟩ := h
    exact ⟨rfl, rfl⟩
  refine ⟨fun harmed => ?_, fun hpaused => ?_⟩
  · exact (hs.armed (hphase.1.symm.trans harmed)).imp h.poised h.slack
  · exact hphase.2.trans (hs.paused (hphase.1.symm.trans hpaused))

theorem Poised.sound {phase : Phase} (h : s.Poised phase) (hphase : phase ≠ .paused) : s.Sound where
  armed harmed := .inl ⟨harmed, h.2⟩
  paused hpaused := absurd (h.1.symm.trans hpaused) hphase

theorem Slack.sound {phase : Phase} (h : s.Slack phase) : s.Sound where
  armed harmed := .inr ⟨harmed, h.2⟩
  paused _ := h.2

theorem sound_terminate (s : Session) : s.terminate.Sound :=
  Slack.sound ⟨rfl, wait_dropWait s⟩

theorem poised_arm {phase : Phase} (h : s.wait = none) :
    ({ s.arm with phase } : Session).Poised phase := by
  rw [arm_of_none h]
  exact ⟨rfl, _, rfl, s.latch.serves_arm⟩

/-- What a session has been told of once, it is not told of again. -/
theorem Drift.outcome? (h : s.Drift s') {outcome : HaltOutcome}
    (hs : s.outcome? = some outcome) : s'.outcome? = some outcome := by
  obtain ⟨latch, observer, hlatch, -⟩ := h
  obtain rfl | ⟨fired, -, rfl⟩ := hlatch
  · exact hs
  unfold Session.outcome? at hs ⊢
  dsimp only
  cases hwait : s.wait with
  | none => simpa only [hwait] using hs
  | some wait =>
    simp only [hwait] at hs ⊢
    have hpending : s.latch.state wait ≠ .pending := by
      intro hpending
      simp [hpending] at hs
    rw [Latch.state_complete_of_ne_pending hpending]
    exact hs

/-- A session whose wait counts is not passed over. -/
theorem Poised.of_outcome (hs : s.Poised .armed) {outcome : HaltOutcome}
    (houtcome : s.outcome? = some outcome) : outcome ≠ .superseded := by
  obtain ⟨-, wait, hwait, hserves⟩ := hs
  simp only [outcome?, hwait] at houtcome
  cases hstate : s.latch.state wait with
  | pending => simp [hstate] at houtcome
  | gone => exact absurd hstate hserves.not_gone
  | ready outcome' =>
    simp only [hstate, Option.some.injEq] at houtcome
    exact houtcome ▸ (hserves.ready hstate).2

/-- What has become of `s` while it waits. -/
structure Awaiting (s s' : Session) : Prop where
  poised : s'.Poised .armed
  table : s'.table = s.table
  index : s'.index = s.index
  told : ∀ outcome, s.outcome? = some outcome → s'.outcome? = some outcome

theorem Drift.awaiting {s₀ : Session} (h : s.Drift s') (hs : s₀.Awaiting s) : s₀.Awaiting s' := by
  have hpoised := h.poised hs.poised
  have htold := fun outcome h₀ => h.outcome? (hs.told outcome h₀)
  obtain ⟨latch, observer, -, -⟩ := h
  exact ⟨hpoised, hs.table, hs.index, htold⟩

end Latch

section Slow

variable {δ : Type} [Link δ]

/-- What goes on around a call on a session. The device may do anything meanwhile. -/
def slow (listening : Bool) : Surroundings Session δ :=
  .ofLink (notify listening) fun w w' => w.1.Drift w'.1

variable {listening : Bool} (knows : Session → Prop)

theorem spares_slow (hdrift : ∀ s s', s.Drift s' → knows s → knows s') :
    (slow (δ := δ) listening).Spares fun w => knows w.1 :=
  fun _ _ hhappens hw => hdrift _ _ hhappens hw

theorem knows_of_answers (hdrift : ∀ s s', s.Drift s' → knows s → knows s') {request : Request}
    {w w' : Session × δ}
    {answer : Except LinkError request.Reply}
    (ha : (slow listening).answers request w answer w') (hw : knows w.1) : knows w'.1 := by
  obtain ⟨-, rfl⟩ := ha
  generalize (Link.serve w.2 request).events = events
  induction events generalizing w with
  | nil => exact hw
  | cons event events ih =>
    exact ih (w := (w.1.notify listening event, w.2)) (hdrift _ _ (w.1.drift_notify _ _) hw)

theorem slow_ask {held : Option Request → Session × δ → Prop}
    (hdrift : ∀ s s', s.Drift s' → knows s → knows s') (request : Request)
    (hheld : ∀ w, knows w.1 → held (some request) w) :
    Keeps (slow (δ := δ) listening) held (fun w => knows w.1) (ask request) (fun _ w => knows w.1)
      fun _ w => knows w.1 :=
  keeps_ask_same (spares_slow knows hdrift) hheld fun _ _ _ hw ha =>
    knows_of_answers knows hdrift ha hw

theorem steady_slow {held : Option Request → Session × δ → Prop}
    (hdrift : ∀ s s', s.Drift s' → knows s → knows s')
    (hframe : ∀ s pending area status hasHalted, knows s →
      knows { s with pending, area, status, hasHalted })
    (hheld : ∀ request w, knows w.1 → held (some request) w) :
    Steady (slow listening) held fun w => knows w.1 where
  spares := spares_slow knows hdrift
  held := hheld
  answers _ _ _ _ _ hw ha := knows_of_answers knows hdrift ha hw
  frame s _ _ _ _ _ hs := hframe s _ _ _ _ hs

/-- Whether a message tells of a halt, as the session explains it. If the session has been told of
one, it is that halt. -/
def Tells (s : Session) (message : HaltMessage) : Prop :=
  ∃ pc words, (∀ outcome, s.outcome? = some outcome → outcome = .halted pc) ∧
    message = .new (s.table.resolve (s.place pc)).id (.ofArea words s.index)

/-- How a wait that was dropped leaves its session. -/
def Left (during : Option Request) (s : Session) : Prop :=
  match during with
  | none => s.Poised .armed
  | some _ => s.Slack .armed

/-- From the moment at which a halt is taken, the session has no wait until it is paused. -/
theorem slow_closeWait {s : Session} {outcome : HaltOutcome} (houtcome : outcome ≠ .superseded)
    (hs : ∀ outcome', s.outcome? = some outcome' → outcome' = outcome) :
    Keeps (slow (δ := δ) listening) (fun during w => Left during w.1)
      (fun w => w.1.phase = .armed ∧ w.1.table = s.table ∧ w.1.index = s.index)
      (closeWait outcome) (fun message w => s.Tells message ∧ w.1.Slack .paused)
      fun e _ => e.isTransport := by
  unfold closeWait
  have htaken : Keeps (slow (δ := δ) listening) (fun during w => Left during w.1)
      (fun w => w.1.phase = .armed ∧ w.1.table = s.table ∧ w.1.index = s.index) (modify dropWait)
      (fun _ w => w.1.Slack .armed ∧ w.1.table = s.table ∧ w.1.index = s.index)
      fun e _ => e.isTransport := by
    refine keeps_modify fun w hw => ?_
    rw [dropWait_eq]
    exact ⟨⟨hw.1, rfl⟩, hw.2⟩
  refine keeps_bind htaken fun _ => ?_
  cases outcome with
  | superseded => exact absurd rfl houtcome
  | failed e => exact keeps_fail fun _ _ => rfl
  | halted pc =>
    have hsteady : Steady (slow (δ := δ) listening) (fun during w => Left during w.1)
        fun w => w.1.Slack .armed ∧ w.1.table = s.table ∧ w.1.index = s.index := by
      refine steady_slow (fun s' => s'.Slack .armed ∧ s'.table = s.table ∧ s'.index = s.index)
        (fun s' s'' hdrift hs' => ⟨hdrift.slack hs'.1, ?_⟩) (fun _ _ _ _ _ hs' => hs')
        fun _ _ hw => hw.1
      obtain ⟨latch, observer, -, -⟩ := hdrift
      exact hs'.2
    refine (hsteady.keeps_halted pc (fun w hw => hw.2) fun _ _ hw => hw).mono (fun _ hw => hw) ?_
      fun _ _ hw => hw.1
    rintro message w ⟨s', words, hs', hw, rfl⟩
    refine ⟨⟨pc, words, hs, by rw [place_congr hs'.2.2]⟩, ?_⟩
    rw [hw]
    exact ⟨rfl, hs'.1.2⟩

/-- A session with its wait: dropped while it waits it keeps it, dropped later it has lost it, and
else it tells of the halt or of a failure of the link. -/
theorem slow_waitForHalt {s : Session} (hs : s.Poised .armed) (d : δ) :
    (waitForHalt s).Keeps (slow listening) (fun during w => Left during w.1)
      (Returns (fun message w => s.Tells message ∧ w.1.Slack .paused) fun e _ => e.isTransport)
      d := by
  have hspares : (slow (δ := δ) listening).Spares fun w => s.Awaiting w.1 :=
    spares_slow s.Awaiting fun _ _ hdrift hs' => hdrift.awaiting hs'
  rw [waitForHalt_eq, if_pos hs.1]
  intro w hpasses
  have hw : s.Awaiting w.1 := hspares.passes hpasses ⟨hs, rfl, rfl, fun _ h => h⟩
  refine ⟨hw.poised, fun outcome hready => ?_⟩
  refine slow_closeWait (hw.poised.of_outcome hready) (fun outcome' hs' => ?_) _ _
    ⟨hw.poised.1, hw.table, hw.index⟩
  exact Option.some.inj ((hw.told outcome' hs').symm.trans hready)

/-- A session that has lost its wait has no use for another one. -/
theorem slow_waitForHalt_of_slack {s : Session} (hs : s.Slack .armed) (d : δ) :
    (waitForHalt s).Keeps (slow listening) (fun during w => during = none ∧ w.1.Slack .armed)
      (fun result _ => result = .error .superseded) d := by
  rw [waitForHalt_eq, if_pos hs.1]
  intro w hpasses
  have hw : w.1.Slack .armed :=
    (spares_slow (Slack .armed) fun _ _ hdrift hs' => hdrift.slack hs').passes hpasses hs
  refine ⟨⟨rfl, hw⟩, fun outcome hready => ?_⟩
  rw [outcome?, hw.2] at hready
  cases hready
  exact rfl

/-- A session is in order wherever a call on it is suspended. -/
def Sounds (_ : Option Request) (w : Session × δ) : Prop :=
  w.1.Sound

theorem steady_slack {phase : Phase} :
    Steady (slow (δ := δ) listening) Sounds fun w => w.1.Slack phase :=
  steady_slow (Slack phase) (fun _ _ hdrift hs => hdrift.slack hs) (fun _ _ _ _ _ hs => hs)
    fun _ _ hw => hw.sound

theorem slow_writeStatus (status : DebugStatus) :
    Keeps (slow (δ := δ) listening) Sounds (fun w => w.1.Sound) (writeStatus status)
      (fun _ w => w.1.Sound) fun _ w => w.1.Sound := by
  have hsteady : Steady (slow (δ := δ) listening) Sounds fun w => w.1.Sound :=
    steady_slow Sound (fun _ _ hdrift hs => hdrift.sound hs) (fun _ _ _ _ _ hs => ⟨hs.1, hs.2⟩)
      fun _ _ hw => hw
  exact (hsteady.keeps_writeStatus status).mono (fun _ hw => hw) (fun _ _ hw => hw)
    fun _ _ hw => hw.2

/-- The device is set going, and the wait that was handed out before counts. -/
theorem slow_launch (phase : Phase) (hphase : phase ≠ .paused) (request : Request) :
    Keeps (slow (δ := δ) listening) Sounds (fun w => w.1.Poised phase)
      (do
        let _ ← ask request
        modify fun s => { s.setRunning with phase := .armed })
      (fun _ w => w.1.Poised .armed) fun _ w => w.1.Sound := by
  have hask : Keeps (slow (δ := δ) listening) Sounds (fun w => w.1.Poised phase) (ask request)
      (fun _ w => w.1.Poised phase) fun _ w => w.1.Sound := by
    refine (slow_ask (Poised phase) (fun _ _ hdrift hs => hdrift.poised hs) request ?_).mono
      (fun _ hw => hw) (fun _ _ hw => hw) fun _ _ hw => hw.sound hphase
    exact fun _ hw => hw.sound hphase
  refine keeps_bind hask fun _ => keeps_modify fun w hw => ?_
  obtain ⟨-, wait, hwait, hserves⟩ := hw
  exact ⟨rfl, wait, hwait, hserves.setRunning⟩

theorem slow_flashAndArm :
    Keeps (slow (δ := δ) listening) Sounds (fun w => w.1.Slack .starting) flashAndArm
      (fun _ w => w.1.Poised .armed) fun _ w => w.1.Sound := by
  have hsteady : Steady (slow (δ := δ) listening) Sounds fun w => w.1.Slack .starting :=
    steady_slack
  unfold flashAndArm
  refine keeps_get fun s => ?_
  cases s.table.entry? with
  | none => exact keeps_fail fun w hw => hw.2.sound
  | some entry =>
    refine keeps_bind (m := fun _ w => w.1.Slack .starting) (keeps_modify fun w hw => hw.2)
      fun _ => ?_
    have hask := hsteady.keeps_ask (Request.not_launches_setBreakpoints [entry.address])
    refine keeps_bind (hask.mono (fun _ hw => hw) (fun _ _ hw => hw) fun _ _ hw => hw.2.sound)
      fun _ => ?_
    refine keeps_bind (m := fun _ w => w.1.Poised .flashing)
      (keeps_modify fun w hw => poised_arm hw.2) fun _ => keeps_get fun s => ?_
    exact (slow_launch .flashing nofun _).under fun w hw => hw.2

/-- A step is turned away and changes nothing, or it gives up the halt and sets the device going. -/
theorem slow_step (into : Bool) :
    Keeps (slow (δ := δ) listening) Sounds (fun w => w.1.Sound) (step into)
      (fun _ w => w.1.Poised .armed) fun _ w => w.1.Sound := by
  have hsteady : Steady (slow (δ := δ) listening) Sounds fun w => w.1.Slack .resuming :=
    steady_slack
  unfold step expectPhase
  refine keeps_bind (m := fun _ w => w.1.Slack .paused) (keeps_get fun s => ?_) fun _ =>
    keeps_get fun s => ?_
  · split
    · refine keeps_pure fun w hw => ?_
      obtain ⟨rfl, hsound⟩ := hw
      exact ⟨‹_›, hsound.paused ‹_›⟩
    · exact keeps_fail fun w hw => hw.2
  cases s.current with
  | none => exact keeps_fail fun w hw => hw.2.sound
  | some current =>
    dsimp only
    refine keeps_bind (m := fun _ w => w.1.Slack .resuming) (keeps_modify fun w hw => ⟨rfl, hw.2.2⟩)
      fun _ => ?_
    have hask := hsteady.keeps_ask
      (Request.not_launches_setBreakpoints (s.table.successorAddresses current))
    refine keeps_bind (hask.mono (fun _ hw => hw) (fun _ _ hw => hw) fun _ _ hw => hw.2.sound)
      fun _ => ?_
    refine keeps_bind ((hsteady.keeps_writeStatus _).mono (fun _ hw => hw) (fun _ _ hw => hw)
      fun _ _ hw => hw.2.sound) fun _ => ?_
    refine keeps_bind (m := fun _ w => w.1.Poised .resuming)
      (keeps_modify fun w hw => ?_) fun _ => ?_
    · obtain ⟨hphase, hwait⟩ := hw
      rw [arm_of_none hwait]
      exact ⟨hphase, _, rfl, w.1.latch.serves_arm⟩
    · exact slow_launch .resuming nofun _

theorem slow_waitForHalt_sound (s : Session) (d : δ) (hs : s.Sound) :
    (waitForHalt s).Keeps (slow listening) Sounds
      (Returns (fun _ w => w.1.Sound) fun e w => e.isHarmless = false ∨ w.1.Sound) d := by
  by_cases hphase : s.phase = .armed
  case neg =>
    rw [waitForHalt_eq, if_neg hphase]
    exact .inr hs
  obtain hpoised | hslack := hs.armed hphase
  · refine (slow_waitForHalt hpoised d).mono ?_ ?_
    · rintro (_ | request) w hw
      · exact Poised.sound hw nofun
      · exact Slack.sound hw
    · rintro (e | message) w hw
      · exact .inl (SessionError.not_harmless_of_isTransport hw)
      · exact Slack.sound hw.2
  · refine (slow_waitForHalt_of_slack hslack d).mono (fun _ _ hw => hw.2.sound) ?_
    rintro result w rfl
    exact .inl rfl

end Slow

end Session

namespace Slow

variable {δ α : Type}

/-- What becomes of a controller without a call: its session goes on as sessions do. -/
def Happens (w w' : Controller × δ) : Prop :=
  match w.1.session with
  | some s => ∃ s', s.Drift s' ∧ w'.1 = w.1.seat s'
  | none => w'.1 = w.1

/-- The session of a controller is in order, if there is one. -/
structure Sound (w : Controller × δ) : Prop where
  session : ∀ s, w.1.session = some s → s.Sound
  rest : w.1.restPhase ≠ .armed

theorem sound_of_none {w : Controller × δ} (h : w.1.session = none)
    (hrest : w.1.restPhase ≠ .armed) : Sound w where
  session s hs := by
    rw [h] at hs
    cases hs
  rest := hrest

theorem sound_seat {c : Controller} {s : Session} {d : δ} (hrest : c.restPhase ≠ .armed)
    (hs : s.Sound) : Sound (c.seat s, d) where
  session := by
    rintro s' hs'
    cases hs'
    exact hs
  rest := hrest

theorem sound_settle (result : Except SessionError α) {c : Controller} {s : Session} {d : δ}
    (hrest : c.restPhase ≠ .armed)
    (h : Returns (fun _ w => w.1.Sound) (fun e w => e.isHarmless = false ∨ w.1.Sound) result
      (s, d)) : Sound ((c.seat s).settle result, d) := by
  cases result with
  | ok a => exact sound_seat hrest h
  | error e =>
    by_cases hharmless : e.isHarmless
    · have hsound : s.Sound := h.resolve_left (by simp [hharmless])
      simpa only [Controller.settle, if_pos hharmless] using sound_seat hrest hsound
    · simp only [Controller.settle, if_neg hharmless]
      exact sound_seat hrest s.sound_terminate

theorem sound_happens {w w' : Controller × δ} (h : Happens w w') (hw : Sound w) : Sound w' := by
  unfold Happens at h
  split at h
  case h_1 s hsession =>
    obtain ⟨s', hdrift, hseat⟩ := h
    have hw' : w' = (w.1.seat s', w'.2) := by rw [← hseat]
    rw [hw']
    exact sound_seat hw.rest (hdrift.sound (hw.session s hsession))
  case h_2 hsession => exact ⟨h ▸ hw.session, h ▸ hw.rest⟩

/-- Whether a controller has a session of some kind. -/
def Has (kind : Session → Prop) (w : Controller × δ) : Prop :=
  ∃ s, w.1.session = some s ∧ kind s

theorem Has.happens {w w' : Controller × δ} {kind : Session → Prop}
    (hkind : ∀ s s', s.Drift s' → kind s → kind s')
    (hw : Has kind w) (h : Happens w w') : Has kind w' := by
  obtain ⟨s, hsession, hs⟩ := hw
  unfold Happens at h
  simp only [hsession] at h
  obtain ⟨s', hdrift, hseat⟩ := h
  exact ⟨s', by rw [hseat]; rfl, hkind s s' hdrift hs⟩

/-- A call on a session keeps what it keeps on the session alone, which is settled at its end. -/
theorem keeps_onSession {aroundSession : Surroundings Session δ}
    {aroundController : Surroundings Controller δ} {call : Routine Session α} {c : Controller}
    {s : Session} {d : δ} {held : Option Request → Controller × δ → Prop}
    {ok : Except SessionError α → Controller × δ → Prop}
    (hhouses : Call.Houses (·.session) Controller.seat c aroundSession aroundController)
    (hsession : c.session = some s)
    (h : (call s).Keeps aroundSession (fun during w => held during (c.seat w.1, w.2))
      (fun result w => ok result ((c.seat w.1).settle result, w.2)) d) :
    (Controller.onSession call c).Keeps aroundController held ok d := by
  have hcall : Controller.onSession call c = ((call s).within (·.session) Controller.seat c).bind
      fun result c => .done (c.settle result) result := by
    unfold Controller.onSession
    simp only [hsession]
    rfl
  rw [hcall]
  exact (hhouses.keeps_within h).bind

variable [Link δ]

/-- What goes on around a controller whose requests take time. -/
def around : Surroundings Controller δ :=
  .ofLink Controller.notify Happens

theorem houses_seat (c : Controller) :
    Call.Houses (·.session) Controller.seat c (Session.slow (δ := δ) c.listening) around := by
  refine Call.Lodges.houses ⟨fun _ => rfl, fun _ _ => rfl, fun e s => c.notify_seat e s, ?_⟩
  rintro s d t d' ⟨s', hdrift, hseat⟩
  exact ⟨s', hseat, hdrift⟩

/-- One call on a controller, which stops somewhere, or what happens by itself. -/
inductive Leads (w : Controller × δ) : Controller × δ → Prop where
  | happen {w' : Controller × δ} : Happens w w' → Leads w w'
  | call (errand : Errand) {stop : Call.Stop (Except SessionError errand.Reply)}
      {w' : Controller × δ} :
      Call.Stops around (errand.routine (Link.capabilities w.2) w.1) w.2 stop w' → Leads w w'

/-- Whether a new controller can come to this, whatever calls on it are dropped. -/
def Reachable (w : Controller × δ) : Prop :=
  ∃ config link, ReflTransGen Leads (.new config, link) w

/-- A call that keeps sessions in order does so on a controller. -/
theorem sound_onSession {call : Routine Session α}
    (h : ∀ listening s (d : δ), s.Sound → (call s).Keeps (Session.slow listening) Session.Sounds
      (Returns (fun _ w => w.1.Sound) fun e w => e.isHarmless = false ∨ w.1.Sound) d) :
    Keeps (around (δ := δ)) (fun _ => Sound) Sound (Controller.onSession call) (fun _ => Sound)
      fun _ => Sound := by
  intro c d hsound
  cases hsession : c.session with
  | none =>
    unfold Controller.onSession
    simp only [hsession]
    exact hsound
  | some s =>
    have hcall := h c.listening s d (hsound.session s hsession)
    refine keeps_onSession (houses_seat c) hsession (hcall.mono ?_ ?_)
    · exact fun _ w hw => sound_seat hsound.rest hw
    · rintro result w hw
      have hsettled := sound_settle result hsound.rest hw
      cases result <;> exact hsettled

/-- A start takes the place of the session, whatever it was: it gives up, or the new session keeps
what the device's start keeps. -/
theorem keeps_start {has : Capabilities} {compiled : Except CompileError Program} {c : Controller}
    {d : δ} {held : Option Request → Controller × δ → Prop}
    {ok : Except SessionError Unit → Controller × δ → Prop}
    (hfail : ∀ e, ok (.error e) (c.giveUp, d))
    (hbegin : ∀ program table observer, compiled = .ok program →
      BreakpointTable.ofList? program.breakpoints = some table →
      let begun := c.embark (.new program table observer) observer
      (Session.flashAndArm (.new program table observer)).Keeps (Session.slow begun.listening)
        (fun during w => held during (begun.seat w.1, w.2))
        (fun result w => ok result ((begun.seat w.1).settle result, w.2)) d) :
    (Controller.start has compiled c).Keeps around held ok d := by
  rw [Controller.start_eq]
  cases hopening : Controller.opening has compiled c.config with
  | error e => exact hfail e
  | ok begun =>
    obtain ⟨s, observer⟩ := begun
    obtain ⟨program, table, hcompiled, htable, -, rfl⟩ := Controller.opening_ok hopening
    exact keeps_onSession (houses_seat _) rfl (hbegin program table observer hcompiled htable)

theorem sound_start (has : Capabilities) (compiled : Except CompileError Program) :
    Keeps (around (δ := δ)) (fun _ => Sound) (fun _ => True) (Controller.start has compiled)
      (fun _ => Sound) fun _ => Sound := by
  have hrest : Phase.starting ≠ .armed ∧ Phase.terminated ≠ .armed := by decide
  intro c d _
  refine keeps_start (fun _ => sound_of_none rfl hrest.2) fun program table observer _ _ => ?_
  refine (Session.slow_flashAndArm _ d ⟨rfl, rfl⟩).mono ?_ ?_
  · exact fun _ w hw => sound_seat hrest.1 hw
  · rintro (e | _) w hw
    · exact sound_settle (.error e : Except SessionError Unit) hrest.1 (.inr hw)
    · exact sound_settle (.ok ()) hrest.1 (hw.sound nofun)

/-- No errand, wherever it stops, leaves a session behind that is not in order. -/
theorem sound_errand (has : Capabilities) (errand : Errand) :
    Keeps (around (δ := δ)) (fun _ => Sound) Sound (errand.routine has) (fun _ => Sound)
      fun _ => Sound := by
  have hwait : Keeps (around (δ := δ)) (fun _ => Sound) Sound Controller.waitForHalt
      (fun _ => Sound) fun _ => Sound :=
    sound_onSession fun _ s d hs => Session.slow_waitForHalt_sound s d hs
  have hstep (into : Bool) : Keeps (around (δ := δ)) (fun _ => Sound) Sound (Controller.step into)
      (fun _ => Sound) fun _ => Sound := by
    refine sound_onSession fun _ s d hs => ((Session.slow_step into s d hs).mono ?_ ?_)
    · exact fun _ _ hw => hw
    · rintro (e | _) w hw
      · exact .inr hw
      · exact hw.sound nofun
  cases errand with
  | start compiled => exact (sound_start has compiled).under fun _ _ => trivial
  | startDebug compiled =>
    exact keeps_bind ((sound_start has compiled).under fun _ _ => trivial) fun _ => hwait
  | waitForHalt => exact hwait
  | step into => exact hstep into
  | handle command => exact hstep command.isInto
  | writeStatus status =>
    refine sound_onSession fun _ s d hs => ((Session.slow_writeStatus status s d hs).mono ?_ ?_)
    · exact fun _ _ hw => hw
    · rintro (e | _) w hw
      · exact .inr hw
      · exact hw
  | finish =>
    have hrest : Phase.idle ≠ .armed := by decide
    exact keeps_modify fun w _ => sound_of_none rfl hrest

theorem Leads.sound {w w' : Controller × δ} (h : Leads w w') (hw : Sound w) : Sound w' := by
  cases h with
  | happen hhappens => exact sound_happens hhappens hw
  | @call errand stop _ hstops =>
    have hkeeps := (sound_errand _ errand w.1 w.2 hw).of_stops hstops
    rcases stop with (e | a) | during <;> exact hkeeps

theorem Reachable.sound {w : Controller × δ} (h : Reachable w) : Sound w := by
  obtain ⟨config, link, hleads⟩ := h
  induction hleads with
  | refl =>
    have hrest : Phase.idle ≠ .armed := by decide
    exact sound_of_none rfl hrest
  | tail _ hlast ih => exact hlast.sound ih

/-- What happens to a world happens to its controller. -/
theorem happens_after (w : World) (incident : Incident) : Happens w (w.after incident) := by
  obtain ⟨c, d⟩ := w
  unfold Happens
  cases hsession : c.session with
  | none =>
    obtain ⟨d', hafter, -⟩ := World.after_of_none hsession d incident
    rw [hafter]
  | some s =>
    obtain ⟨s', d', hafter, hstirs⟩ := World.stirs_after c s d incident
    rw [Controller.seat_of_session hsession] at hafter
    rw [hafter]
    exact ⟨s', hstirs.drift, rfl⟩

/-- What an errand comes to that nothing happens around. -/
def outcome (w : World) (errand : Errand) : Option (Except SessionError errand.Reply) :=
  (Routine.run Controller.notify (errand.routine w.2.capabilities) w.1 w.2).result

theorem stops_errand (w : World) (errand : Errand) :
    Call.Stops around (errand.routine (Link.capabilities w.2) w.1) w.2
      (.ofResult (outcome w errand)) (w.run errand) :=
  Call.stops_run _ _

theorem stops_of_isNone {w : World} {errand : Errand} (h : (outcome w errand).isNone) :
    Call.Stops around (errand.routine (Link.capabilities w.2) w.1) w.2 (.dropped none)
      (w.run errand) := by
  have hstops := stops_errand w errand
  rwa [Option.isNone_iff_eq_none.1 h] at hstops

theorem stops_of_toBool {w : World} {errand : Errand}
    (h : (outcome w errand).map (·.toBool) = some true) :
    ∃ reply, Call.Stops around (errand.routine (Link.capabilities w.2) w.1) w.2
      (.finished (.ok reply)) (w.run errand) := by
  have hstops := stops_errand w errand
  obtain ⟨e | reply, hresult, hok⟩ := Option.map_eq_some_iff.1 h
  · cases hok
  · rw [hresult] at hstops
    exact ⟨reply, hstops⟩

end Slow

namespace Bench

variable {α : Type} {bench : Bench}

/-- The controller on a bench, with the rig for its link. -/
def onRig (bench : Bench) : Controller × Rig :=
  (bench.controller, bench.rig)

theorem happens_seat {c : Controller} {s s' : Session} {rig rig' : Rig}
    (hsession : c.session = some s) (hdrift : s.Drift s') :
    Slow.Happens (c, rig) (c.seat s', rig') := by
  unfold Slow.Happens
  simp only [hsession]
  exact ⟨s', hdrift, rfl⟩

theorem happens_refl (c : Controller) (rig rig' : Rig) : Slow.Happens (c, rig) (c, rig') := by
  cases hsession : c.session with
  | none => simp only [Slow.Happens, hsession]
  | some s =>
    have hhappens : Slow.Happens (c, rig) (c.seat s, rig') := happens_seat hsession s.drift_refl
    rwa [Controller.seat_of_session hsession] at hhappens

theorem serve_queryHalt (bench : Bench) :
    bench.serve .queryHalt = ((bench.rig.serve .queryHalt).answer,
      { bench with rig := (bench.rig.serve .queryHalt).link }) := by
  have hevents : (bench.rig.serve .queryHalt).events = [] := by
    simp only [Rig.serve]
    split
    · rfl
    · exact bench.rig.device.events_serve_queryHalt
  have hserve : bench.serve .queryHalt = ((bench.rig.serve .queryHalt).answer,
      ({ bench with rig := (bench.rig.serve .queryHalt).link } : Bench).deliver
        (bench.rig.serve .queryHalt).events) := rfl
  rw [hserve, hevents]
  rfl

/-- The task that asks for halts changes a session as sessions change by themselves. -/
theorem happens_poll {interval : Nat} {stage : PollStage}
    (hobserver : bench.controller.session.bind (·.observer) = some (.poll interval stage)) :
    Slow.Happens bench.onRig (bench.poll interval stage).onRig := by
  obtain ⟨s, hsession, hs⟩ := Option.bind_eq_some_iff.1 hobserver
  have hdrift : ∀ latch stage',
      (latch = s.latch ∨ ∃ outcome ≠ .superseded, latch = (s.latch.complete outcome).2) →
      s.Drift { s with latch, observer := some (.poll interval stage') } := by
    intro latch stage' hlatch
    exact .mk _ _ hlatch (by simp [hs])
  cases stage with
  | fresh | asleep due =>
    simp only [Bench.poll, setStage, modifySession, onRig, hsession, Option.map_some]
    exact happens_seat hsession (hdrift _ _ (.inl rfl))
  | ended => exact happens_refl _ _ _
  | asking due answered =>
    simp only [Bench.poll, serve_queryHalt]
    rcases (bench.rig.serve .queryHalt).answer with e | _ | pc
    all_goals simp only [setStage, modifySession, onRig, hsession, Option.map_some]
    · exact happens_seat hsession (hdrift _ _ (.inr ⟨.failed e, by simp, rfl⟩))
    · exact happens_seat hsession (hdrift _ _ (.inl rfl))
    · exact happens_seat hsession (hdrift _ _ (.inr ⟨.halted pc, by simp, rfl⟩))

/-- Events arrive one after another, if each one may. -/
theorem passes_events {τ : Type} {around : Surroundings Controller τ} {link : τ}
    (hevent : ∀ {c : Controller} {s : Session} (event : Event), c.session = some s →
      around.Passes (c, link) (c.seat (s.notify c.listening event), link))
    (c : Controller) (events : List Event) :
    around.Passes (c, link) (events.foldl (fun c e => c.notify e) c, link) := by
  induction events generalizing c with
  | nil => exact .refl
  | cons event events ih =>
    refine .trans ?_ (ih (c.notify event))
    cases hsession : c.session with
    | none => rw [Controller.notify_of_none hsession]
    | some s =>
      have hnotify := c.notify_seat event s
      rw [Controller.seat_of_session hsession] at hnotify
      rw [hnotify]
      exact hevent event hsession

/-- What arrives from the device changes a session as sessions change by themselves. -/
theorem passes_notify (c : Controller) (rig rig' : Rig) (events : List Event) :
    (Slow.around (δ := Rig)).Passes (c, rig) (events.foldl (fun c e => c.notify e) c, rig') :=
  .head (happens_refl c rig rig') <| passes_events
    (fun event hsession => .single (happens_seat hsession (Session.drift_notify _ _ event)))
    c events

theorem passes_happen {time : Nat} {occasion : Occasion}
    (hnext : bench.nextOccasion? = some (time, occasion)) :
    (Slow.around (δ := Rig)).Passes bench.onRig (bench.happen time occasion).onRig := by
  obtain ⟨alarm, rfl⟩ | hpolling := nextOccasion_spec hnext
  · exact passes_notify _ _ _ _
  · obtain ⟨interval, stage, rfl, hobserver⟩ := polling_spec hpolling
    have hpoll : Slow.Happens ({ bench with now := time } : Bench).onRig
        (({ bench with now := time } : Bench).poll interval stage).onRig := happens_poll hobserver
    exact .single hpoll

theorem enough_of_proceed (stop : Nat) (enough : Bench → Option α) (fuel : Nat) (bench : Bench) :
    ∀ a ∈ (proceed stop enough fuel bench).1,
      enough (proceed stop enough fuel bench).2 = some a := by
  induction fuel generalizing bench with
  | zero => exact fun _ ha => ha
  | succ fuel ih =>
    unfold proceed
    split
    case h_1 a henough => exact fun _ ha => henough.trans ha
    case h_2 =>
      split
      case h_1 time occasion hnext =>
        split
        case isTrue => exact ih _
        case isFalse => simp
      case h_2 => simp

/-- What goes on around a controller on a bench goes on around it on a link, of which the rig shows
something and the controller something else. -/
structure Hosts {τ : Type} (around : Surroundings Controller τ) (good : Controller × τ → Prop)
    (shows : Rig → τ → Prop) : Prop where
  spares : around.Spares good
  happen : ∀ {bench : Bench} {link : τ} {time : Nat} {occasion : Occasion},
    bench.nextOccasion? = some (time, occasion) → shows bench.rig link →
    good (bench.controller, link) →
    ∃ link', around.Passes (bench.controller, link)
        ((bench.happen time occasion).controller, link') ∧
      shows (bench.happen time occasion).rig link'
  serve : ∀ {bench : Bench} {link : τ} (request : Request), shows bench.rig link →
    ∃ link', around.answers request (bench.controller, link) (bench.serve request).1
        ((bench.serve request).2.controller, link') ∧
      shows (bench.serve request).2.rig link'

namespace Hosts

variable {τ : Type} {around : Surroundings Controller τ} {good : Controller × τ → Prop}
variable {shows : Rig → τ → Prop} {link : τ}

/-- While time passes on a bench, something goes on around the controller. -/
theorem proceed (h : Hosts around good shows) (stop : Nat) (enough : Bench → Option α) (fuel : Nat)
    (bench : Bench) (hshows : shows bench.rig link) (hgood : good (bench.controller, link)) :
    ∃ link', around.Passes (bench.controller, link)
        ((Bench.proceed stop enough fuel bench).2.controller, link') ∧
      shows (Bench.proceed stop enough fuel bench).2.rig link' := by
  induction fuel generalizing bench link with
  | zero => exact ⟨link, .refl, hshows⟩
  | succ fuel ih =>
    unfold Bench.proceed
    split
    case h_1 => exact ⟨link, .refl, hshows⟩
    case h_2 =>
      split
      case h_1 time occasion hnext =>
        split
        case isTrue =>
          obtain ⟨link₁, hpasses, hshows₁⟩ := h.happen hnext hshows hgood
          obtain ⟨link₂, hlater, hshows₂⟩ := ih _ hshows₁ (h.spares.passes hpasses hgood)
          exact ⟨link₂, hpasses.trans hlater, hshows₂⟩
        case isFalse => exact ⟨link, .refl, hshows⟩
      case h_2 => exact ⟨link, .refl, hshows⟩

/-- What a bench makes of a call is one of the things that may come of it. -/
theorem drive (h : Hosts around good shows) (deadline : Nat) {call : Call Controller α}
    (bench : Bench) {ok : α → Controller × τ → Prop} (hshows : shows bench.rig link)
    (hkeeps : call.Keeps around (fun _ => good) ok link) :
    ∃ stop link', stop.result? = (Bench.drive deadline call bench).1 ∧
      Call.Stops around call link stop ((Bench.drive deadline call bench).2.controller, link') ∧
      shows (Bench.drive deadline call bench).2.rig link' := by
  induction call generalizing bench link with
  | done controller result => exact ⟨_, link, rfl, .done _ _ _, hshows⟩
  | ask controller request next ih =>
    obtain ⟨hsuspended, hnext⟩ := hkeeps
    -- The answer comes after some time or at once.
    have hanswered : ∀ (passed : Bench) (link₁ : τ),
        around.Passes (controller, link) (passed.controller, link₁) → shows passed.rig link₁ →
        ∃ link₂, around.Answered request (controller, link) (passed.serve request).1
            ((passed.serve request).2.controller, link₂) ∧
          shows (passed.serve request).2.rig link₂ := by
      intro passed link₁ hpasses hshows₁
      obtain ⟨link₂, hanswers, hshows₂⟩ := h.serve request hshows₁
      exact ⟨link₂, ⟨_, _, hpasses, hanswers, .refl⟩, hshows₂⟩
    unfold Bench.drive
    dsimp only
    split
    case isTrue =>
      obtain ⟨link₂, hanswer, hshows₂⟩ := hanswered { bench with controller } link .refl hshows
      obtain ⟨stop, link₃, hresult, hstops, hshows₃⟩ := ih _ _ _ hshows₂ (hnext _ _ hanswer).2
      exact ⟨stop, link₃, hresult, .answered hanswer hstops, hshows₃⟩
    case isFalse =>
      have hpass := fun stop => h.proceed stop pass.never
        (({ bench with controller } : Bench).occasionBound stop) { bench with controller } hshows
        (hsuspended _ .refl)
      split
      case isTrue =>
        obtain ⟨link₁, hpasses, hshows₁⟩ := hpass (bench.now + bench.rig.latency request)
        obtain ⟨link₂, hanswer, hshows₂⟩ := hanswered _ link₁ hpasses hshows₁
        obtain ⟨stop, link₃, hresult, hstops, hshows₃⟩ := ih _ _ _ hshows₂ (hnext _ _ hanswer).2
        exact ⟨stop, link₃, hresult, .answered hanswer hstops, hshows₃⟩
      case isFalse =>
        obtain ⟨link₁, hpasses, hshows₁⟩ := hpass deadline
        exact ⟨.dropped (some request), link₁, rfl, .unanswered hpasses, hshows₁⟩
  | await controller ready next ih =>
    obtain ⟨link₁, hpasses, hshows₁⟩ := h.proceed deadline
      (fun bench => ready bench.controller)
      (({ bench with controller } : Bench).occasionBound deadline) { bench with controller } hshows
      (hkeeps _ .refl).1
    have hready := enough_of_proceed deadline (fun bench => ready bench.controller)
      (({ bench with controller } : Bench).occasionBound deadline) { bench with controller }
    unfold Bench.drive
    dsimp only
    split
    case h_1 outcome passed heq =>
      rw [heq] at hpasses hshows₁ hready
      have houtcome : ready passed.controller = some outcome := hready outcome rfl
      obtain ⟨stop, link₂, hresult, hstops, hshows₂⟩ :=
        ih outcome passed.controller passed hshows₁ ((hkeeps _ hpasses).2 outcome houtcome)
      exact ⟨stop, link₂, hresult, .woken hpasses houtcome hstops, hshows₂⟩
    case h_2 passed heq =>
      rw [heq] at hpasses hshows₁
      exact ⟨.dropped none, link₁, rfl, .unwoken hpasses, hshows₁⟩

end Hosts

theorem hosts_slow : Hosts (Slow.around (δ := Rig)) (fun _ => True) fun rig link => link = rig where
  spares _ _ _ _ := trivial
  happen := by
    rintro bench _ time occasion hnext rfl -
    exact ⟨_, passes_happen hnext, rfl⟩
  serve := by
    rintro bench _ request rfl
    exact ⟨_, ⟨rfl, rfl⟩, rfl⟩

theorem reachable_call (h : Slow.Reachable bench.onRig) (timeout : Nat) (errand : Errand) :
    Slow.Reachable
      (bench.call timeout (errand.routine bench.rig.device.capabilities)).2.onRig := by
  obtain ⟨config, rig, hleads⟩ := h
  obtain ⟨stop, _, -, hstops, rfl⟩ := hosts_slow.drive (bench.now + timeout) bench rfl
    (Call.keeps_link (fun _ => True) (fun _ _ => trivial) (fun _ _ => trivial) _ bench.rig trivial)
  exact ⟨config, rig, hleads.tail (.call errand hstops)⟩

end Bench

end BoardDebug
