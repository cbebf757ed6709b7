import BoardDebug.Proofs.Session.Slow
import BoardDebug.Proofs.Session.Walk

namespace BoardDebug

open Relation Routine

/-- Whether whatever a request arms is fine. -/
def Request.ArmsOnly (fine : List UInt32 → Prop) (request : Request) : Prop :=
  ∀ addresses, request = .setBreakpoints addresses → fine addresses

theorem Request.setBreakpoints_injective : Function.Injective setBreakpoints := by
  intro first second h
  have hbytes : wordBytes first = wordBytes second := by
    simpa only [setBreakpoints, talk.injEq, true_and] using h
  have hwords : words? (wordBytes first) = words? (wordBytes second) := by rw [hbytes]
  simpa using hwords

theorem Request.armsOnly_setBreakpoints {fine : List UInt32 → Prop} {addresses : List UInt32}
    (h : fine addresses) : (setBreakpoints addresses).ArmsOnly fine := by
  intro addresses' heq
  rwa [← setBreakpoints_injective heq]

theorem Request.armsOnly_talk {fine : List UInt32 → Prop} {opcode : UInt32}
    (h : opcode ≠ Opcode.setBreakpoints) (payload : Bytes) :
    (talk opcode payload).ArmsOnly fine := by
  intro addresses heq
  exact absurd (talk.inj heq).1 h

/-- Whether no halt of a program is explained by a breakpoint that leads to one which could not be
placed. -/
def Program.StepsPlaced (program : Program) : Prop :=
  ∀ table, BreakpointTable.ofList? program.breakpoints = some table → table.entry?.isSome →
    ∀ pc, 0 ∉ table.successorAddresses
      (table.resolve (Procedure.place (Procedure.standing program.procedures) pc))

theorem BreakpointTable.address_entry_ne_zero {table : BreakpointTable} {entry : Breakpoint}
    (h : table.entry? = some entry) : entry.address ≠ 0 := by
  obtain ⟨_, _, -, hplaced, -⟩ := isLowestPlaced_entry h
  exact hplaced

namespace Session

/-! ### What the calls on a session arm -/

section Arms

variable {fine : List UInt32 → Prop} {s : Session}

theorem only_fetchArea (s : Session) : (fetchArea s).Only (Request.ArmsOnly fine) := by
  have hask : (Request.talk Opcode.getGlobals []).ArmsOnly fine :=
    Request.armsOnly_talk (by decide) _
  unfold fetchArea
  refine only_get ?_
  cases s.area with
  | some area => trivial
  | none =>
    refine only_bind (only_bind (only_ask hask s) fun reply s => ?_) fun _ _ => trivial
    cases GlobalsArea.ofReply reply <;> trivial

theorem only_writeStatus (status : DebugStatus) (s : Session) :
    (writeStatus status s).Only (Request.ArmsOnly fine) := by
  unfold writeStatus
  refine only_get ?_
  split
  · trivial
  · exact only_bind (only_fetchArea s) fun _ s => only_bind (only_ask nofun s) fun _ _ => trivial

theorem only_halted (pc : UInt32) (s : Session) : (halted pc s).Only (Request.ArmsOnly fine) := by
  unfold halted Snapshot.take
  refine only_bind (only_fetchArea s) fun area s => only_get ?_
  refine only_bind (only_bind (only_ask nofun s) fun words s => ?_) fun snapshot s => ?_
  · split <;> trivial
  · refine only_modify ?_
    split
    · exact only_bind (only_writeStatus _ _) fun _ _ => trivial
    · trivial

theorem only_waitForHalt (s : Session) : (waitForHalt s).Only (Request.ArmsOnly fine) := by
  rw [waitForHalt_eq]
  split
  case isTrue =>
    refine fun outcome s => only_modify ?_
    cases outcome with
    | halted pc => exact only_halted pc _
    | failed | superseded => trivial
  case isFalse => trivial

/-- A start arms its entry alone. -/
theorem only_flashAndArm (h : ∀ entry, s.table.entry? = some entry → fine [entry.address]) :
    (flashAndArm s).Only (Request.ArmsOnly fine) := by
  unfold flashAndArm
  refine only_get ?_
  cases hentry : s.table.entry? with
  | none => trivial
  | some entry =>
    refine only_modify ?_
    have harms := Request.armsOnly_setBreakpoints (h entry hentry)
    refine only_bind (only_ask harms _) fun _ s => ?_
    exact only_modify (only_get (only_bind (only_ask nofun _) fun _ _ => trivial))

theorem only_expectPhase {phase : Phase} {r : Routine Session Unit}
    (h : (r s).Only (Request.ArmsOnly fine)) :
    ((expectPhase phase >>= fun _ => r) s).Only (Request.ArmsOnly fine) := by
  change (Call.bind _ ((if s.phase = phase then pure () else
    Routine.fail (.wrongPhase phase s.phase) : Routine Session Unit) s)).Only _
  split
  · exact h
  · trivial

/-- A step arms the successors of the breakpoint from which it goes on. -/
theorem only_step (into : Bool)
    (h : ∀ current, s.current = some current → fine (s.table.successorAddresses current)) :
    (step into s).Only (Request.ArmsOnly fine) := by
  have hresume : Request.resume.ArmsOnly fine := Request.armsOnly_talk (by decide) _
  unfold step
  refine only_expectPhase (only_get ?_)
  cases hcurrent : s.current with
  | none => trivial
  | some current =>
    dsimp only
    refine only_modify ?_
    have harms := Request.armsOnly_setBreakpoints (h current hcurrent)
    refine only_bind (only_ask harms _) fun _ s => ?_
    refine only_bind (only_writeStatus _ s) fun _ s => only_modify ?_
    exact only_bind (only_ask hresume _) fun _ _ => trivial

end Arms

/-! ### What explains the halt of a session -/

section Begun

variable {outputs : Program → Prop} {s s' : Session}

/-- A session of one of some programs that has an entry. If a halt has been explained, the
breakpoint is that of some place. -/
structure Begun (outputs : Program → Prop) (s : Session) : Prop where
  made : outputs s.program
  table_eq : BreakpointTable.ofList? s.program.breakpoints = some s.table
  index_eq : s.index = .ofList s.program.procedures
  entry : s.table.entry?.isSome
  current : ∀ b, s.current = some b → ∃ pc, b = s.table.resolve (s.place pc)

/-- A session whose device was left alone. -/
structure Unused (s : Session) : Prop where
  phase : s.phase ≠ .armed
  current : s.current = none

/-- Whether the session was begun, or its device was left alone. -/
def InOrder (outputs : Program → Prop) (s : Session) : Prop :=
  s.Begun outputs ∨ s.Unused

/-- Whatever else changes, a session stays begun. -/
theorem Begun.frame (h : s.Begun outputs) (phase : Phase) (pending : List UInt32)
    (area : Option GlobalsArea) (status : Option DebugStatus) (hasHalted : Bool) (latch : Latch)
    (wait : Option Nat) (observer : Option Observer) :
    ({ s with phase, pending, area, status, hasHalted, latch, wait, observer } : Session).Begun
      outputs :=
  ⟨h.made, h.table_eq, h.index_eq, h.entry, h.current⟩

theorem Begun.drift (h : s.Begun outputs) (hdrift : s.Drift s') : s'.Begun outputs := by
  obtain ⟨latch, observer, -, -⟩ := hdrift
  exact h.frame _ _ _ _ _ _ _ _

theorem Begun.explained (h : s.Begun outputs) (pc : UInt32) :
    ({ s with pending := [], current := some (s.table.resolve (s.place pc)) } : Session).Begun
      outputs := by
  refine ⟨h.made, h.table_eq, h.index_eq, h.entry, fun b hb => ⟨pc, ?_⟩⟩
  exact (Option.some.inj hb).symm

theorem Begun.dropWait (h : s.Begun outputs) : s.dropWait.Begun outputs := by
  rw [dropWait_eq]
  exact h.frame _ _ _ _ _ _ _ _

theorem Begun.arm (h : s.Begun outputs) : s.arm.Begun outputs := by
  have hlatch : ({ s with latch := s.latch.arm.2 } : Session).Begun outputs :=
    h.frame _ _ _ _ _ _ _ _
  exact hlatch.dropWait.frame _ _ _ _ _ _ _ _

theorem Unused.drift (h : s.Unused) (hdrift : s.Drift s') : s'.Unused := by
  obtain ⟨latch, observer, -, -⟩ := hdrift
  exact ⟨h.phase, h.current⟩

theorem InOrder.drift (h : s.InOrder outputs) (hdrift : s.Drift s') : s'.InOrder outputs :=
  h.imp (·.drift hdrift) (·.drift hdrift)

theorem InOrder.terminate (h : s.InOrder outputs) : s.terminate.InOrder outputs := by
  obtain h | h := h
  · exact .inl (h.dropWait.frame _ _ _ _ _ _ _ _)
  · refine .inr ⟨nofun, ?_⟩
    unfold Session.terminate
    rw [dropWait_eq]
    exact h.current

end Begun

section Keeps

variable {δ : Type} [Link δ] {listening : Bool} {outputs : Program → Prop} {s : Session}

/-- A session is in order wherever a call on it is suspended. -/
def Orders (outputs : Program → Prop) (_ : Option Request) (w : Session × δ) : Prop :=
  w.1.InOrder outputs

theorem steady_begun : Steady (slow (δ := δ) listening) (Orders outputs)
    fun w => w.1.Begun outputs :=
  steady_slow (Begun outputs) (fun _ _ hdrift hs => hs.drift hdrift)
    (fun _ _ _ _ _ hs => hs.frame _ _ _ _ _ _ _ _) fun _ _ hw => .inl hw

theorem steady_unused : Steady (slow (δ := δ) listening) (Orders outputs) fun w => w.1.Unused :=
  steady_slow Unused (fun _ _ hdrift hs => hs.drift hdrift)
    (fun _ _ _ _ _ hs => ⟨hs.phase, hs.current⟩) fun _ _ hw => .inr hw

theorem begun_ask (request : Request) :
    Keeps (slow (δ := δ) listening) (Orders outputs) (fun w => w.1.Begun outputs) (ask request)
      (fun _ w => w.1.Begun outputs) fun _ w => w.1.Begun outputs :=
  slow_ask (Begun outputs) (fun _ _ hdrift hs => hs.drift hdrift) request fun _ hw => .inl hw

theorem begun_flashAndArm :
    Keeps (slow (δ := δ) listening) (Orders outputs) (fun w => w.1.Begun outputs) flashAndArm
      (fun _ w => w.1.Begun outputs) fun _ w => w.1.Begun outputs := by
  unfold flashAndArm
  refine keeps_get fun s => ?_
  cases s.table.entry? with
  | none => exact keeps_fail fun w hw => hw.2
  | some entry =>
    refine keeps_bind (m := fun _ w => w.1.Begun outputs)
      (keeps_modify fun w hw => hw.2.frame _ _ _ _ _ _ _ _) fun _ => ?_
    refine keeps_bind (begun_ask _) fun _ => ?_
    refine keeps_bind (m := fun _ w => w.1.Begun outputs)
      (keeps_modify fun w hw => hw.arm.frame _ _ _ _ _ _ _ _) fun _ => keeps_get fun s => ?_
    refine keeps_bind ((begun_ask _).under fun w hw => hw.2) fun _ => ?_
    exact keeps_modify fun w hw => hw.frame _ _ _ _ _ _ _ _

theorem begun_closeWait (outcome : HaltOutcome) :
    Keeps (slow (δ := δ) listening) (Orders outputs) (fun w => w.1.Begun outputs)
      (closeWait outcome) (fun _ w => w.1.Begun outputs) fun _ w => w.1.Begun outputs := by
  unfold closeWait
  refine keeps_bind (m := fun _ w => w.1.Begun outputs) (keeps_modify fun w hw => hw.dropWait)
    fun _ => ?_
  cases outcome with
  | failed | superseded => exact keeps_fail fun w hw => hw
  | halted pc =>
    intro s d hs
    -- The table and the index stay those of `s` while the halt is described.
    have hsteady : Steady (slow (δ := δ) listening) (Orders outputs) fun w =>
        w.1.Begun outputs ∧ w.1.table = s.table ∧ w.1.index = s.index := by
      refine steady_slow (fun s' => s'.Begun outputs ∧ s'.table = s.table ∧ s'.index = s.index)
        (fun s' s'' hdrift hs' => ⟨hs'.1.drift hdrift, ?_⟩)
        (fun _ _ _ _ _ hs' => ⟨hs'.1.frame _ _ _ _ _ _ _ _, hs'.2⟩) fun _ _ hw => .inl hw.1
      obtain ⟨latch, observer, -, -⟩ := hdrift
      exact hs'.2
    have hhalted := hsteady.keeps_halted pc (fun w hw => hw.2)
      fun s' d hs' => ⟨hs'.1.explained pc, hs'.2⟩
    refine (hhalted.mono (fun _ hw => hw) ?_ fun _ _ hw => hw.2.1) s d ⟨hs, rfl, rfl⟩
    rintro message w ⟨s', words, hs', hw, -⟩
    rw [hw]
    exact hs'.1.frame _ _ _ _ _ _ _ _

theorem inOrder_waitForHalt :
    Keeps (slow (δ := δ) listening) (Orders outputs) (fun w => w.1.InOrder outputs) waitForHalt
      (fun _ w => w.1.InOrder outputs) fun _ w => w.1.InOrder outputs := by
  intro s d hs
  rw [waitForHalt_eq]
  split
  case isTrue hphase =>
    have hbegun : s.Begun outputs := hs.resolve_right fun hunused => hunused.phase hphase
    intro w hpasses
    have hw : w.1.Begun outputs := steady_begun.spares.passes hpasses hbegun
    refine ⟨.inl hw, fun outcome _ => ?_⟩
    exact (begun_closeWait outcome).mono (fun _ hw => hw) (fun _ _ hw => .inl hw)
      (fun _ _ hw => .inl hw) _ _ hw
  case isFalse => exact hs

theorem inOrder_writeStatus (status : DebugStatus) :
    Keeps (slow (δ := δ) listening) (Orders outputs) (fun w => w.1.InOrder outputs)
      (writeStatus status) (fun _ w => w.1.InOrder outputs) fun _ w => w.1.InOrder outputs := by
  intro s d hs
  obtain hs | hs := hs
  · exact (steady_begun.keeps_writeStatus status).mono (fun _ hw => hw) (fun _ _ hw => .inl hw)
      (fun _ _ hw => .inl hw.2) s d hs
  · exact (steady_unused.keeps_writeStatus status).mono (fun _ hw => hw) (fun _ _ hw => .inr hw)
      (fun _ _ hw => .inr hw.2) s d hs

theorem inOrder_step (into : Bool) :
    Keeps (slow (δ := δ) listening) (Orders outputs) (fun w => w.1.InOrder outputs) (step into)
      (fun _ w => w.1.InOrder outputs) fun _ w => w.1.InOrder outputs := by
  unfold step expectPhase
  refine keeps_bind (m := fun _ w => w.1.InOrder outputs) (keeps_get fun s => ?_) fun _ =>
    keeps_get fun s => ?_
  · split
    · exact keeps_pure fun w hw => hw.2
    · exact keeps_fail fun w hw => hw.2
  cases hcurrent : s.current with
  | none => exact keeps_fail fun w hw => hw.2
  | some current =>
    dsimp only
    have hgo : Keeps (slow (δ := δ) listening) (Orders outputs) (fun w => w.1.Begun outputs)
        (do
          modify fun s' => { s' with
            phase := .resuming, pending := s.table.successorAddresses current }
          let _ ← ask (.setBreakpoints (s.table.successorAddresses current))
          let _ ← writeStatus (if into then .singleStep else .breakpoints)
          modify arm
          let _ ← ask .resume
          modify fun s => { s.setRunning with phase := .armed })
        (fun _ w => w.1.Begun outputs) fun _ w => w.1.Begun outputs := by
      refine keeps_bind (m := fun _ w => w.1.Begun outputs)
        (keeps_modify fun w hw => hw.frame _ _ _ _ _ _ _ _) fun _ => ?_
      refine keeps_bind (begun_ask _) fun _ => ?_
      refine keeps_bind ((steady_begun.keeps_writeStatus _).mono (fun _ hw => hw)
        (fun _ _ hw => hw) fun _ _ hw => hw.2) fun _ => ?_
      refine keeps_bind (m := fun _ w => w.1.Begun outputs) (keeps_modify fun w hw => hw.arm)
        fun _ => ?_
      exact keeps_bind (begun_ask _) fun _ => keeps_modify fun w hw => hw.frame _ _ _ _ _ _ _ _
    refine hgo.mono ?_ (fun _ _ hw => .inl hw) fun _ _ hw => .inl hw
    rintro w ⟨rfl, hbegun | hunused⟩
    · exact hbegun
    · exact absurd (hcurrent.symm.trans hunused.current) (Option.some_ne_none _)

/-- A new session leaves its device alone if it has no entry. -/
theorem inOrder_new {program : Program} {table : BreakpointTable} (observer : Observer)
    (hmade : outputs program) (htable : BreakpointTable.ofList? program.breakpoints = some table)
    (d : δ) :
    (flashAndArm (.new program table observer)).Keeps (slow listening) (Orders outputs)
      (Returns (fun _ w => w.1.InOrder outputs) fun _ w => w.1.InOrder outputs) d := by
  cases hentry : table.entry? with
  | none =>
    have hunused : (Session.new program table observer).Unused := ⟨nofun, rfl⟩
    have hfail : Keeps (slow (δ := δ) listening) (Orders outputs)
        (fun w => Session.new program table observer = w.1) flashAndArm
        (fun _ w => w.1.InOrder outputs) fun _ w => w.1.InOrder outputs := by
      unfold flashAndArm
      refine keeps_get fun known => keeps_fact (fun w hw => hw.2.trans hw.1) ?_
      rintro rfl
      rw [show (Session.new program table observer).table.entry? = none from hentry]
      exact keeps_fail fun w hw => .inr (hw.2 ▸ hunused)
    exact hfail _ d rfl
  | some entry =>
    have hbegun : (Session.new program table observer).Begun outputs :=
      ⟨hmade, htable, rfl, Option.isSome_of_eq_some hentry, nofun⟩
    exact begun_flashAndArm.mono (fun _ hw => hw) (fun _ _ hw => .inl hw)
      (fun _ _ hw => .inl hw) _ d hbegun

end Keeps

end Session

namespace Controller

variable {fine : List UInt32 → Prop} {c : Controller}

theorem only_onSession {α : Type} {call : Routine Session α}
    (h : ∀ s, c.session = some s → (call s).Only (Request.ArmsOnly fine)) :
    (onSession call c).Only (Request.ArmsOnly fine) := by
  unfold onSession
  cases hsession : c.session with
  | none => trivial
  | some s => exact .bind ((h s hsession).within c) fun _ _ => trivial

theorem only_start (has : Capabilities) (compiled : Except CompileError Program) (c : Controller)
    (hentry : ∀ table entry, BreakpointTable.entry? table = some entry → fine [entry.address]) :
    (start has compiled c).Only (Request.ArmsOnly fine) := by
  rw [start_eq]
  cases opening has compiled c.config with
  | error e => trivial
  | ok begun => exact only_onSession fun s _ => Session.only_flashAndArm (hentry s.table)

end Controller

namespace Errand

/-- Whether the program that an errand starts, if it starts one, is one of some. -/
def StartsOnly (outputs : Program → Prop) : Errand → Prop
  | start compiled => ∀ program, compiled = .ok program → outputs program
  | startDebug compiled => ∀ program, compiled = .ok program → outputs program
  | _ => True

/-- An errand arms the entry of some table, or what the session can step to from where it is. -/
theorem only_routine (errand : Errand) (has : Capabilities) (c : Controller)
    {fine : List UInt32 → Prop}
    (hentry : ∀ table entry, BreakpointTable.entry? table = some entry → fine [entry.address])
    (hstep : ¬errand.Opens → ∀ s current, c.session = some s → s.current = some current →
      fine (s.table.successorAddresses current)) :
    (errand.routine has c).Only (Request.ArmsOnly fine) := by
  have hwait (c : Controller) : (Controller.waitForHalt c).Only (Request.ArmsOnly fine) :=
    Controller.only_onSession fun s _ => Session.only_waitForHalt s
  cases errand with
  | start compiled => exact Controller.only_start has compiled c hentry
  | startDebug compiled =>
    exact only_bind (Controller.only_start has compiled c hentry) fun _ => hwait
  | waitForHalt => exact hwait c
  | step into | handle command =>
    exact Controller.only_onSession fun s hs => Session.only_step _ fun b => hstep id s b hs
  | writeStatus status =>
    exact Controller.only_onSession fun s _ => Session.only_writeStatus status s
  | finish => trivial

end Errand

namespace Slow

variable {δ α : Type} {outputs : Program → Prop}

/-- The session of a controller is in order, if there is one. -/
def InOrder (outputs : Program → Prop) (w : Controller × δ) : Prop :=
  ∀ s, w.1.session = some s → s.InOrder outputs

theorem inOrder_of_none {w : Controller × δ} (h : w.1.session = none) : InOrder outputs w := by
  intro s hs
  rw [h] at hs
  cases hs

theorem inOrder_seat {c : Controller} {s : Session} {d : δ} (h : s.InOrder outputs) :
    InOrder outputs (c.seat s, d) := by
  rintro _ ⟨⟩
  exact h

theorem inOrder_settle (result : Except SessionError α) {c : Controller} {s : Session} {d : δ}
    (h : s.InOrder outputs) : InOrder outputs ((c.seat s).settle result, d) := by
  cases result with
  | ok a => exact inOrder_seat h
  | error e =>
    by_cases hharmless : e.isHarmless
    · simpa only [Controller.settle, if_pos hharmless] using inOrder_seat h
    · simp only [Controller.settle, if_neg hharmless]
      exact inOrder_seat (s := s.terminate) h.terminate

theorem inOrder_happens {w w' : Controller × δ} (h : Happens w w') (hw : InOrder outputs w) :
    InOrder outputs w' := by
  unfold Happens at h
  split at h
  case h_1 s hsession =>
    obtain ⟨s', hdrift, hseat⟩ := h
    intro t ht
    rw [hseat] at ht
    cases ht
    exact (hw s hsession).drift hdrift
  case h_2 =>
    intro t ht
    exact hw t (h ▸ ht)

variable [Link δ]

theorem inOrder_onSession {call : Routine Session α}
    (h : ∀ listening, Keeps (Session.slow (δ := δ) listening) (Session.Orders outputs)
      (fun w => w.1.InOrder outputs) call (fun _ w => w.1.InOrder outputs)
      fun _ w => w.1.InOrder outputs) :
    Keeps (around (δ := δ)) (fun _ => InOrder outputs) (InOrder outputs)
      (Controller.onSession call) (fun _ => InOrder outputs) fun _ => InOrder outputs := by
  intro c d hw
  cases hsession : c.session with
  | none =>
    unfold Controller.onSession
    simp only [hsession]
    exact hw
  | some s =>
    refine keeps_onSession (houses_seat c) hsession ((h _ s d (hw s hsession)).mono ?_ ?_)
    · exact fun _ _ hs => inOrder_seat hs
    · rintro (e | a) w hs
      · exact inOrder_settle (.error e : Except SessionError α) hs
      · exact inOrder_settle (.ok a) hs

theorem inOrder_start (has : Capabilities) (compiled : Except CompileError Program)
    (hmade : ∀ program, compiled = .ok program → outputs program) :
    Keeps (around (δ := δ)) (fun _ => InOrder outputs) (fun _ => True)
      (Controller.start has compiled) (fun _ => InOrder outputs) fun _ => InOrder outputs := by
  intro c d _
  refine keeps_start (fun _ => inOrder_of_none rfl) ?_
  intro program table observer hcompiled htable
  refine (Session.inOrder_new observer (hmade program hcompiled) htable d).mono ?_ ?_
  · exact fun _ _ hs => inOrder_seat hs
  · rintro (e | a) w hs
    · exact inOrder_settle (.error e : Except SessionError Unit) hs
    · exact inOrder_settle (.ok a) hs

theorem inOrder_errand (has : Capabilities) (errand : Errand) (h : errand.StartsOnly outputs) :
    Keeps (around (δ := δ)) (fun _ => InOrder outputs) (InOrder outputs) (errand.routine has)
      (fun _ => InOrder outputs) fun _ => InOrder outputs := by
  have hwait : Keeps (around (δ := δ)) (fun _ => InOrder outputs) (InOrder outputs)
      Controller.waitForHalt (fun _ => InOrder outputs) fun _ => InOrder outputs :=
    inOrder_onSession fun _ => Session.inOrder_waitForHalt
  cases errand with
  | start compiled => exact (inOrder_start has compiled h).under fun _ _ => trivial
  | startDebug compiled =>
    exact keeps_bind ((inOrder_start has compiled h).under fun _ _ => trivial) fun _ => hwait
  | waitForHalt => exact hwait
  | step into | handle command => exact inOrder_onSession fun _ => Session.inOrder_step _
  | writeStatus status => exact inOrder_onSession fun _ => Session.inOrder_writeStatus status
  | finish => exact keeps_modify fun w _ => inOrder_of_none rfl

/-- One call on a controller that may start some programs only and stops somewhere, or what happens
by itself. -/
inductive Debugs (outputs : Program → Prop) (w : Controller × δ) : Controller × δ → Prop where
  | happen {w' : Controller × δ} : Happens w w' → Debugs outputs w w'
  /-- A start has let go of the session and waits for its program. -/
  | compile : Debugs outputs w ({ w.1 with session := none, restPhase := .starting }, w.2)
  | call (errand : Errand) {stop : Call.Stop (Except SessionError errand.Reply)}
      {w' : Controller × δ} :
      errand.StartsOnly outputs →
      Call.Stops around (errand.routine (Link.capabilities w.2) w.1) w.2 stop w' →
      Debugs outputs w w'

/-- Whether a new controller can come to this with some programs, whatever calls on it are dropped
and wherever the device halts. -/
def Debugged (outputs : Program → Prop) (w : Controller × δ) : Prop :=
  ∃ config link, ReflTransGen (Debugs outputs) (.new config, link) w

theorem Debugs.inOrder {w w' : Controller × δ} (h : Debugs outputs w w')
    (hw : InOrder outputs w) : InOrder outputs w' := by
  cases h with
  | happen hhappens => exact inOrder_happens hhappens hw
  | compile => exact inOrder_of_none rfl
  | @call errand stop _ hstarts hstops =>
    have hkeeps := (inOrder_errand _ errand hstarts w.1 w.2 hw).of_stops hstops
    rcases stop with (e | a) | during <;> exact hkeeps

theorem Debugged.inOrder {w : Controller × δ} (h : Debugged outputs w) : InOrder outputs w := by
  obtain ⟨config, link, hdebugs⟩ := h
  induction hdebugs with
  | refl => exact inOrder_of_none rfl
  | tail _ hlast ih => exact hlast.inOrder ih

/-- Whether an errand may come to arm some addresses: it can be dropped when it has asked for
that. -/
def Arms (w : Controller × δ) (errand : Errand) (addresses : List UInt32) : Prop :=
  ∃ w', Call.Stops around (errand.routine (Link.capabilities w.2) w.1) w.2
    (.dropped (some (.setBreakpoints addresses))) w'

theorem Arms.fine {w : Controller × δ} {errand : Errand} {addresses : List UInt32}
    (h : Arms w errand addresses) (fine : List UInt32 → Prop)
    (honly : (errand.routine (Link.capabilities w.2) w.1).Only (Request.ArmsOnly fine)) :
    fine addresses := by
  obtain ⟨w', hstops⟩ := h
  exact honly.of_stops hstops addresses rfl

theorem fine_entry (table : BreakpointTable) (entry : Breakpoint)
    (h : table.entry? = some entry) : 0 ∉ [entry.address] := by
  rw [List.mem_singleton]
  exact (BreakpointTable.address_entry_ne_zero h).symm

/-- Where steps lead to placed breakpoints only, nothing else is armed. -/
theorem Debugged.arms_placed {w : Controller × δ} (h : Debugged outputs w)
    (hplaced : ∀ program, outputs program → program.StepsPlaced) {errand : Errand}
    {addresses : List UInt32} (harms : Arms w errand addresses) : 0 ∉ addresses := by
  refine harms.fine (fun addresses => 0 ∉ addresses) ?_
  refine errand.only_routine _ _ fine_entry fun _ s current hsession hcurrent => ?_
  have hbegun : s.Begun outputs := (h.inOrder s hsession).resolve_right fun hunused =>
    absurd (hcurrent.symm.trans hunused.current) (Option.some_ne_none _)
  obtain ⟨pc, rfl⟩ := hbegun.current current hcurrent
  have hplace : s.place pc = Procedure.place (Procedure.standing s.program.procedures) pc := by
    unfold Session.place
    rw [hbegun.index_eq]
    exact Procedure.place_eq _ _
  rw [hplace]
  exact hplaced _ hbegun.made _ hbegun.table_eq hbegun.entry pc

end Slow

/-- The first thing that a step from a halt asks for is to arm the successors. -/
theorem Controller.step_eq_ask {c : Controller} {s : Session} {current : Breakpoint}
    (hsession : c.session = some s) (hphase : s.phase = .paused)
    (hcurrent : s.current = some current) (into : Bool) :
    ∃ state next, step into c =
      .ask state (.setBreakpoints (s.table.successorAddresses current)) next := by
  have hexpect (r : Routine Session Unit) :
      (Session.expectPhase .paused >>= fun _ => r) s = r s := by
    change Call.bind _ ((if s.phase = .paused then pure () else
      Routine.fail _ : Routine Session Unit) s) = _
    rw [if_pos hphase]
    rfl
  have hget (f : Session → Routine Session Unit) : (get >>= f) s = f s s := rfl
  have hstep : ∃ state next, Session.step into s =
      .ask state (.setBreakpoints (s.table.successorAddresses current)) next := by
    rw [Session.step, hexpect, hget, hcurrent]
    exact ⟨_, _, rfl⟩
  obtain ⟨state, next, hstep⟩ := hstep
  unfold step onSession
  simp only [hsession, hstep]
  exact ⟨_, _, rfl⟩

namespace Slow

variable {outputs : Program → Prop}

/-- A halt that is explained by a breakpoint makes the next step arm its successors. -/
theorem exists_arms {program : Program} (hmade : outputs program) {table : BreakpointTable}
    (htable : BreakpointTable.ofList? program.breakpoints = some table)
    (hentry : table.entry?.isSome) (pc : UInt32) (into : Bool) :
    ∃ w : World, Debugged outputs w ∧ Arms w (.step into) (table.successorAddresses
      (table.resolve (Procedure.place (Procedure.standing program.procedures) pc))) := by
  obtain ⟨entry, hentry⟩ := Option.isSome_iff_exists.1 hentry
  let d := SimulatedDevice.sample [pc]
  let halted : World := World.run (.new .standard, d) (.startDebug (.ok program))
  have hfits : d.area.address.toNat + 4 * d.area.count.toNat ≤ UInt32.size := by
    have harea : d.area = ⟨2, 0x20000000⟩ := rfl
    rw [harea]
    decide
  have hready : d.Ready d.area (.ofList program.procedures) _ [pc] :=
    ⟨rfl, rfl, rfl, rfl, hfits, rfl⟩
  have hstrategy : (Controller.new .standard).config.strategy ≠ .poll := by decide
  obtain ⟨_, -, s, hsession, -, -, hstands, -, -⟩ :=
    (Controller.ends_startDebug htable hentry hstrategy hready).exists_ok
  have hsession : halted.1.session = some s := hsession
  have hstart : (Errand.startDebug (.ok program)).StartsOnly outputs := by
    rintro _ ⟨⟩
    exact hmade
  refine ⟨halted, ⟨.standard, d, .single (.call _ hstart (stops_errand _ _))⟩, ?_⟩
  obtain ⟨state, next, hstep⟩ :=
    Controller.step_eq_ask hsession hstands.phase hstands.current_eq into
  rw [hstands.table_eq] at hstep
  refine ⟨(state, halted.2), ?_⟩
  change Call.Stops around (Controller.step into halted.1) _ _ _
  rw [hstep]
  exact .unanswered .refl

/-- The entry is never unplaced. Everything else that is armed is placed exactly if no halt of a
program that is started leads to an unplaced breakpoint. -/
theorem arms_placed_iff (outputs : Program → Prop) :
    (∀ (δ : Type) [Link δ] (w : Controller × δ) (errand : Errand) (addresses : List UInt32),
      errand.Opens → Arms w errand addresses → 0 ∉ addresses) ∧
    ((∀ (δ : Type) [Link δ] (w : Controller × δ) (errand : Errand) (addresses : List UInt32),
      Debugged outputs w → errand.StartsOnly outputs → Arms w errand addresses → 0 ∉ addresses) ↔
      ∀ program, outputs program → program.StepsPlaced) := by
  refine ⟨?opens, ?placed, ?steps⟩
  case opens =>
    intro δ _ w errand addresses hopens harms
    refine harms.fine (fun addresses => 0 ∉ addresses) ?_
    exact errand.only_routine _ _ fine_entry fun hnot => absurd hopens hnot
  case placed =>
    intro h program hmade table htable hentry pc
    obtain ⟨w, hw, harms⟩ := exists_arms hmade htable hentry pc false
    exact h _ w (.step false) _ hw trivial harms
  case steps =>
    intro h δ _ w errand addresses hw _ harms
    exact hw.arms_placed h harms

end Slow

/-- A program whose first breakpoint but the reserved one leads to one that is not placed. -/
def Program.unplaced : Program :=
  { Program.sample with
    breakpoints := [⟨0, 0, []⟩, ⟨1, 0x2100, [2, 3]⟩, ⟨2, 0, []⟩, ⟨3, 0x2200, []⟩] }

/-- A step from a halt at the entry arms the address of a breakpoint that is not placed. -/
theorem World.step_arms_unplaced :
    let errands : List Errand := [.startDebug (.ok .unplaced), .step false]
    let w := errands.foldl World.run (.new .standard, .sample [0x2100])
    w.Reachable ∧ Operation.talk Opcode.setBreakpoints (wordBytes [0, 0x2200]) ∈ w.2.log := by
  intro errands w
  exact ⟨⟨.standard, .sample [0x2100], errands, .of_run _ _⟩, by decide +kernel⟩

end BoardDebug
