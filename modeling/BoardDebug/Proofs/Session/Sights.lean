import BoardDebug.Proofs.Session.Wired

namespace BoardDebug

open Call Hf2 Relation Routine

variable {β : Type} {options : Options} {view : β → Board}

/-- What a device shows. -/
structure Shown where
  armed : List UInt32
  /-- What the status cell holds. -/
  status : UInt32
deriving DecidableEq

/-- What is seen after an errand: what this brought, the phase of the session, and the device. -/
structure Sight where
  result : Except SessionError (Option HaltMessage)
  phase : Phase
  shown : Shown

/-- The message that an errand brings, if it brings one. -/
def Errand.message? : (errand : Errand) → errand.Reply → Option HaltMessage
  | startDebug _, message => some message
  | waitForHalt, message => some message
  | _, _ => none

section Seen

variable {δ : Type} [Link δ]

/-- What is seen of errands, one after the other, none of which is given up. Around them, and while
one of them waits, `happens` goes on as it likes. -/
inductive Seen (happens : Controller × δ → Controller × δ → Prop) (look : δ → Shown) :
    Controller × δ → List Errand → List Sight → Prop where
  | stop (w : Controller × δ) : Seen happens look w [] []
  | happen {w w' : Controller × δ} {errands : List Errand} {sights : List Sight} :
      happens w w' → Seen happens look w' errands sights → Seen happens look w errands sights
  | perform {c c' : Controller} {link link' : δ} {errand : Errand}
      {result : Except SessionError errand.Reply} {errands : List Errand} {sights : List Sight} :
      Outcome Controller.notify happens (errand.routine (Link.capabilities link) c) link
        ⟨some result, c', link'⟩ →
      Seen happens look (c', link') errands sights →
      Seen happens look (c, link) (errand :: errands)
        (⟨result.map errand.message?, c'.phase, look link'⟩ :: sights)

variable {happens : Controller × δ → Controller × δ → Prop} {look : δ → Shown}
  {before after : Controller × δ → Prop}

/-- An errand that has one result wherever `before` holds, and leads to where `after` holds. -/
structure Errand.Surely (happens : Controller × δ → Controller × δ → Prop)
    (before : Controller × δ → Prop) (errand : Errand) (reply : errand.Reply)
    (after : Controller × δ → Prop) : Prop where
  exists_outcome : ∀ w, before w → ∃ r,
    Outcome Controller.notify happens (errand.routine (Link.capabilities w.2) w.1) w.2 r ∧
      r.result = some (.ok reply)
  outcome : ∀ w r, before w →
    Outcome Controller.notify happens (errand.routine (Link.capabilities w.2) w.1) w.2 r →
      r.result = none ∨ r.result = some (.ok reply) ∧ after (r.state, r.link)

/-- Wherever `before` holds, errands show one thing. -/
def Show (happens : Controller × δ → Controller × δ → Prop) (look : δ → Shown)
    (before : Controller × δ → Prop) (errands : List Errand) (sights : List Sight) : Prop :=
  ∀ w, before w → ∀ seen, Seen happens look w errands seen ↔ seen = sights

theorem show_nil : Show happens look before [] [] := by
  intro w hw seen
  constructor
  · intro h
    generalize herrands : ([] : List Errand) = errands at h
    clear hw
    induction h with
    | stop => rfl
    | happen _ _ ih => exact ih herrands
    | perform => cases herrands
  · rintro rfl
    exact .stop w

/-- A sure errand shows its result, and what comes after it goes on from there. -/
theorem show_cons {errand : Errand} {reply : errand.Reply} {errands : List Errand} {phase : Phase}
    {shown : Shown} {sights : List Sight}
    (hhappens : ∀ w w', before w → happens w w' → before w')
    (hsurely : errand.Surely happens before reply after)
    (hafter : ∀ w, after w → w.1.phase = phase ∧ look w.2 = shown)
    (hrest : Show happens look after errands sights) :
    Show happens look before (errand :: errands)
      (⟨.ok (errand.message? reply), phase, shown⟩ :: sights) := by
  intro w hw seen
  constructor
  · intro h
    generalize herrands : errand :: errands = all at h
    induction h with
    | stop => cases herrands
    | happen hstep _ ih => exact ih (hhappens _ _ hw hstep) herrands
    | perform houtcome hlater _ =>
      cases herrands
      -- An errand that is given up shows nothing, so that this one had a result.
      obtain hnone | ⟨hresult, hthen⟩ := hsurely.outcome _ _ hw houtcome
      · cases hnone
      · cases hresult
        obtain ⟨hphase, hshown⟩ := hafter _ hthen
        rw [(hrest _ hthen _).1 hlater, ← hphase, ← hshown]
        rfl
  · rintro rfl
    obtain ⟨⟨result, c', link'⟩, houtcome, hresult⟩ := hsurely.exists_outcome w hw
    cases hresult
    obtain hnone | ⟨-, hthen⟩ := hsurely.outcome _ _ hw houtcome
    · cases hnone
    · obtain ⟨hphase, hshown⟩ := hafter _ hthen
      rw [← hphase, ← hshown]
      exact .perform houtcome ((hrest _ hthen _).2 rfl)

/-- With nothing around it, an errand has the result of its run. -/
theorem surely_of_run {c : Controller} {link : δ} (errand : Errand) {reply : errand.Reply}
    {r : Run Controller δ (Except SessionError errand.Reply)}
    (hr : Routine.run Controller.notify (errand.routine (Link.capabilities link)) c link = r)
    (hresult : r.result = some (.ok reply)) :
    errand.Surely (fun _ _ => False) (· = (c, link)) reply (· = (r.state, r.link)) where
  exists_outcome := by
    rintro _ rfl
    exact ⟨r, hr ▸ outcome_run _ _, hresult⟩
  outcome := by
    rintro _ r' rfl h
    cases hsome : r'.result with
    | none => exact .inl rfl
    | some result =>
      have heq : r' = r := (h.eq_run_of_alone (by rw [hsome]; rfl)).trans hr
      subst heq
      exact .inr ⟨hsome ▸ hresult, rfl⟩

/-- An errand that never waits has the result of its run, whatever happens around it. -/
theorem surely_of_isDirect {errand : Errand} {reply : errand.Reply}
    (hdirect : ∀ has, (errand.routine has).IsDirect)
    (hrun : ∀ w, before w →
      let r := Routine.run Controller.notify (errand.routine (Link.capabilities w.2)) w.1 w.2
      r.result = some (.ok reply) ∧ after (r.state, r.link)) :
    errand.Surely happens before reply after where
  exists_outcome w hw := ⟨_, outcome_run _ _, (hrun w hw).1⟩
  outcome w r hw h := by
    obtain rfl := h.eq_run (hdirect _ _)
    exact .inr (hrun w hw)

end Seen

/-- What a simulated device shows. -/
def SimulatedDevice.shown (d : SimulatedDevice) : Shown := ⟨d.armed, d.status⟩

/-- What a board shows. -/
def Hf2.Board.shown (b : Board) : Shown :=
  ⟨b.machine.armed, b.machine.memory.read b.machine.area.address⟩

theorem Hf2Link.Mirrors.shown_eq {link : Hf2Link β} {d : SimulatedDevice} {runs : Bool}
    {untold : List UInt32} (h : link.Mirrors options view d runs untold) :
    (view link.bus).shown = d.shown := by
  obtain ⟨m, htuned, hlike, -⟩ := h.tuned
  have haddress : m.area.address = d.globalsAddress := congrArg GlobalsArea.address hlike.area_eq
  unfold Board.shown
  rw [htuned.machine_eq, hlike.armed_eq, hlike.memory_eq, haddress]
  rfl

namespace Controller

variable {p : Controller × Hf2Link β} {q q' : Controller × SimulatedDevice}

theorem On.shown_eq (h : On (Session.Late options view) p q) :
    p.1.phase = q.1.phase ∧ (view p.2.bus).shown = q.2.shown := by
  obtain ⟨s, s', hs, hq, -, hlate⟩ := h
  have hs' : q.1.session = some s' := by rw [hq]; rfl
  obtain ⟨untold, hmirrors⟩ := hlate.exists_mirrors
  rw [phase_of_session hs, phase_of_session hs']
  exact ⟨hlate.phase, hmirrors.shown_eq⟩

theorem On.late {wait : Option Nat} (h : On (Session.Same options view true wait) p q) :
    On (Session.Late options view) p q := by
  obtain ⟨s, s', hs, hq, hlistening, hsame⟩ := h
  exact ⟨s, s', hs, hq, hlistening, .same wait hsame⟩

variable [UsbBus β]

/-- Errands that all succeed and show the same over USB, wherever `before` holds, as they show on a
simulated device. -/
def ShowAlike (view : β → Board) (before : Controller × Hf2Link β → Prop)
    (q : Controller × SimulatedDevice) (errands : List Errand) : Prop :=
  ∃ sights, (∀ sight ∈ sights, ∃ message, sight.result = .ok message) ∧
    Show (fun _ _ => False) SimulatedDevice.shown (· = q) errands sights ∧
    Show Listens (fun link => (view link.bus).shown) before errands sights

variable {before after : Controller × Hf2Link β → Prop} {errands : List Errand}

theorem showAlike_nil : ShowAlike view before q [] :=
  ⟨[], List.forall_mem_nil _, show_nil, show_nil⟩

theorem showAlike_cons (errand : Errand) {reply : errand.Reply}
    (hlistens : ∀ p p', before p → Listens p p' → before p')
    (husb : errand.Surely Listens before reply after)
    (hfake : errand.Surely (fun _ _ => False) (· = q) reply (· = q'))
    (hafter : ∀ p, after p → p.1.phase = q'.1.phase ∧ (view p.2.bus).shown = q'.2.shown)
    (hrest : ShowAlike view after q' errands) : ShowAlike view before q (errand :: errands) := by
  obtain ⟨sights, hok, hfakes, husbs⟩ := hrest
  refine ⟨_, List.forall_mem_cons.2 ⟨⟨_, rfl⟩, hok⟩, ?_, show_cons hlistens husb hafter husbs⟩
  refine show_cons (fun _ _ _ h => h.elim) hfake ?_ hfakes
  rintro _ rfl
  exact ⟨rfl, rfl⟩

/-- A wait shows the same over USB if it comes to an end on the simulated device. -/
theorem showAlike_waitForHalt (hboard : IsBoard options view)
    {r : Run Controller SimulatedDevice (Except SessionError HaltMessage)} {message : HaltMessage}
    (hr : Routine.run notify waitForHalt q.1 q.2 = r) (hmessage : r.result = some (.ok message))
    (hrest : ShowAlike view
      (fun p => On (Session.Same options view true none) p (r.state, r.link)) (r.state, r.link)
      errands) :
    ShowAlike view (fun p => On (Session.Late options view) p q) q (.waitForHalt :: errands) := by
  subst hr
  refine showAlike_cons .waitForHalt
    (fun p p' h hp => h.hand (fun _ _ _ => .hand hboard) (.single hp)) ⟨?_, ?_⟩
    (surely_of_run _ rfl hmessage) (fun p h => h.late.shown_eq) hrest
  · exact fun p h => exists_waitForHalt hboard h hmessage
  · exact fun p r h => waitForHalt_agrees hboard h hmessage

/-- A step shows the same over USB if it succeeds on the simulated device. -/
theorem showAlike_handle (hboard : IsBoard options view) {command : StepCommand}
    {r : Run Controller SimulatedDevice (Except SessionError Unit)}
    (hr : Routine.run notify (handle command) q.1 q.2 = r) (hok : r.result = some (.ok ()))
    (hrest : ShowAlike view (fun p => On (Session.Late options view) p (r.state, r.link))
      (r.state, r.link) errands) :
    ShowAlike view (fun p => On (Session.Same options view true none) p q) q
      (.handle command :: errands) := by
  subst hr
  have hdirect (has : Capabilities) : ((Errand.handle command).routine has).IsDirect :=
    isDirect_onSession (Session.isDirect_step _)
  refine showAlike_cons (.handle command)
    (fun p p' h hp => h.hand (fun _ _ _ => .hand hboard) (.single hp))
    (surely_of_isDirect hdirect fun p h => ?_) (surely_of_run (.handle command) rfl hok)
    (fun p h => h.shown_eq) hrest
  obtain ⟨hresult, hafter⟩ := leads_onSession (Session.leads_step hboard command.isInto) h
  exact ⟨hresult.trans hok, hafter () hok⟩

section Debug

variable {c : Controller} {d : SimulatedDevice} {link : Hf2Link β} {program : Program}
  {table : BreakpointTable}

/-- A start that comes to its first halt is a start, and then a wait for the halt. -/
theorem run_startDebug_of_ok {has : Capabilities} {compiled : Except CompileError Program}
    {message : HaltMessage}
    (hmessage : (Routine.run notify (startDebug has compiled) c d).result = some (.ok message)) :
    let begun := Routine.run notify (start has compiled) c d
    begun.result = some (.ok ()) ∧
      Routine.run notify (startDebug has compiled) c d =
        Routine.run notify waitForHalt begun.state begun.link := by
  intro begun
  have hrun : Routine.run notify (startDebug has compiled) c d =
      begun.next fun _ c d => Routine.run notify waitForHalt c d := Routine.run_bind _ _ _ _
  rw [hrun] at hmessage ⊢
  unfold Call.Run.next Call.Run.andThen at hmessage ⊢
  rcases hresult : begun.result with _ | e | a
  · simp [hresult] at hmessage
  · simp [hresult] at hmessage
  · exact ⟨rfl, rfl⟩

/-- Without a halt to come, nothing is heard before a start. -/
theorem mirrors_of_listens (hboard : IsBoard options view) {p' : Controller × Hf2Link β}
    (h : p.1 = c ∧ p.2.Mirrors options view d false []) (hlistens : Listens p p') :
    p'.1 = c ∧ p'.2.Mirrors options view d false [] := by
  obtain ⟨rfl, hmirrors⟩ := h
  subst hlistens
  obtain ⟨untold, htold, hhanded⟩ := hmirrors.hand hboard
  obtain ⟨hnone, rfl⟩ := List.append_eq_nil_iff.1 htold
  exact ⟨foldl_notify_of_untold p.1 hnone, hhanded⟩

/-- A start over USB comes to its first halt as it does on the simulated device. -/
theorem surely_startDebug (hboard : IsBoard options view)
    (htable : BreakpointTable.ofList? program.breakpoints = some table)
    (hstrategy : c.config.strategy ≠ .poll) {message : HaltMessage}
    {r : Run Controller SimulatedDevice (Except SessionError HaltMessage)}
    (hr : Routine.run notify (startDebug d.capabilities (.ok program)) c d = r)
    (hmessage : r.result = some (.ok message)) :
    (Errand.startDebug (.ok program)).Surely Listens
      (fun p => p.1 = c ∧ p.2.Mirrors options view d false []) message
      (fun p => On (Session.Same options view true none) p (r.state, r.link)) := by
  subst hr
  obtain ⟨hbegun, hwait⟩ := run_startDebug_of_ok hmessage
  rw [hwait] at hmessage ⊢
  generalize hfake : Routine.run notify (start d.capabilities (.ok program)) c d = begun
    at hbegun hmessage ⊢
  have hlate (p : Controller × Hf2Link β) (hp : p.1 = c ∧ p.2.Mirrors options view d false []) :
      let r := Routine.run notify (start (Link.capabilities p.2) (.ok program)) p.1 p.2
      r.result = some (.ok ()) ∧
        On (Session.Late options view) (r.state, r.link) (begun.state, begun.link) := by
    obtain ⟨rfl, hmirrors⟩ := hp
    obtain ⟨hresult, hafter⟩ := leads_start hboard htable hstrategy hmirrors
    rw [hfake] at hresult hafter
    exact ⟨hresult.trans hbegun, hafter () hbegun⟩
  constructor
  · intro p hp
    obtain ⟨hresult, hstarted⟩ := hlate p hp
    obtain ⟨r, houtcome, hr⟩ := exists_waitForHalt hboard hstarted hmessage
    exact ⟨r, (outcome_run _ _).bind hresult houtcome, hr⟩
  · intro p r hp h
    obtain ⟨hresult, hstarted⟩ := hlate p hp
    obtain ⟨mid, hmid, hthen⟩ := outcome_bind h
    have heq : mid = Routine.run notify (start (Link.capabilities p.2) (.ok program)) p.1 p.2 :=
      hmid.eq_run (isDirect_start _ _ _)
    rw [← heq] at hresult hstarted
    rw [hresult] at hthen
    exact waitForHalt_agrees hboard hstarted hmessage hthen

/-- A start up to its first halt shows the same over USB if it succeeds on the simulated device. -/
theorem showAlike_startDebug (hboard : IsBoard options view)
    (htable : BreakpointTable.ofList? program.breakpoints = some table)
    (hstrategy : c.config.strategy ≠ .poll) {message : HaltMessage}
    {r : Run Controller SimulatedDevice (Except SessionError HaltMessage)}
    (hr : Routine.run notify (startDebug d.capabilities (.ok program)) c d = r)
    (hmessage : r.result = some (.ok message))
    (hrest : ShowAlike view
      (fun p => On (Session.Same options view true none) p (r.state, r.link)) (r.state, r.link)
      errands) :
    ShowAlike view (fun p => p.1 = c ∧ p.2.Mirrors options view d false []) (c, d)
      (.startDebug (.ok program) :: errands) :=
  showAlike_cons _ (fun _ _ => mirrors_of_listens hboard)
    (surely_startDebug hboard htable hstrategy hr hmessage)
    (surely_of_run (.startDebug (.ok program)) hr hmessage)
    (fun _ h => h.late.shown_eq) hrest

/-- The errands of steps, each with a wait for its halt. -/
def stepErrands (commands : List StepCommand) : List Errand :=
  commands.flatMap fun command => [.handle command, .waitForHalt]

/-- Steps show the same over USB as on the simulated device. -/
theorem showAlike_steps (hboard : IsBoard options view) {s : Session} {area : GlobalsArea}
    {globals : Globals} {status : DebugStatus} {pc : UInt32} {pcs : List UInt32}
    {commands : List StepCommand} (hsession : c.session = some s) (hlistening : c.listening = true)
    (hs : s.Stands program table area status
      (table.resolve (Procedure.place (Procedure.standing program.procedures) pc)))
    (hd : d.Ready area (.ofList program.procedures) globals pcs)
    (hlength : commands.length = pcs.length) :
    ShowAlike view (fun p => On (Session.Same options view true none) p (c, d)) (c, d)
      (stepErrands commands) := by
  induction commands generalizing c s d status pc pcs with
  | nil => exact showAlike_nil
  | cons command commands ih =>
    cases pcs with
    | nil => cases hlength
    | cons next pcs =>
      -- Each step uses up one of the halts to come, at which the wait after it ends.
      have hstep := Session.runs_step hs hd command.isInto
      rw [← hlistening] at hstep
      obtain ⟨_, hstepped, s', hseat, hs', hd', -⟩ := (ends_onSession hsession hstep).exists_ok
      generalize hr : Routine.run notify (onSession (Session.step command.isInto)) c d = stepped
        at hstepped hseat hd'
      obtain ⟨_, c', d'⟩ := stepped
      obtain rfl : c' = c.seat s' := hseat
      refine showAlike_handle hboard hr hstepped ?_
      change ShowAlike view _ _ (.waitForHalt :: stepErrands commands)
      have hwait := Session.stands_waitForHalt hs' hd'
      rw [← hlistening] at hwait
      obtain ⟨message, hwaited, s'', hseat, -, hs'', hd'', -⟩ :=
        (ends_onSession (c := c.seat s') rfl hwait).exists_ok
      refine showAlike_waitForHalt hboard rfl hwaited ?_
      exact ih (hseat ▸ rfl) (hseat ▸ hlistening) hs'' hd'' (by simpa using hlength)

/-- Debugging over USB succeeds, and shows the same as debugging on a simulated device that is like
the board: the same messages, phases, armed addresses and values of the status cell, whenever the
board tells of its halts and whatever else it says. -/
theorem debug_over_usb (hboard : IsBoard options view) {bus : β}
    (hconnect : Hf2Link.connect options bus = .ok link) (huntold : (view bus).untold = [])
    (hboots : (view bus).machine.boots = false) (hruns : (view bus).machine.runs = false)
    (hlike : (view bus).machine.IsLike d)
    (htable : BreakpointTable.ofList? program.breakpoints = some table) {entry : Breakpoint}
    (hentry : table.entry? = some entry) (hstrategy : c.config.strategy ≠ .poll)
    (hevents : d.capabilities.events) (hfailures : d.failures = []) {pc : UInt32}
    {pcs : List UInt32} (hhalts : d.halts = pc :: pcs) {commands : List StepCommand}
    (hlength : commands.length = pcs.length)
    (hfits : d.globalsAddress.toNat + 4 * d.globalCount.toNat ≤ UInt32.size) :
    let errands := .startDebug (.ok program) :: stepErrands commands
    ∃ sights, (∀ sight ∈ sights, ∃ message, sight.result = .ok message) ∧
      (∀ seen, Seen (fun _ _ => False) SimulatedDevice.shown (c, d) errands seen ↔ seen = sights) ∧
      ∀ seen, Seen Listens (fun link => (view link.bus).shown) (c, link) errands seen ↔
        seen = sights := by
  obtain ⟨htuned, hnone⟩ := Hf2Link.tuned_connect hboard hconnect rfl huntold hboots
  have hmirrors : link.Mirrors options view d false [] :=
    ⟨⟨_, htuned, hlike, hruns⟩, hnone, hevents, hfailures⟩
  have hd : d.Ready d.area (.ofList program.procedures) _ (pc :: pcs) :=
    ⟨hevents, hfailures, hhalts, rfl, hfits, rfl⟩
  obtain ⟨message, hmessage, s, hsession, hlistening, -, hs, hd', -⟩ :=
    (ends_startDebug htable hentry hstrategy hd).exists_ok
  obtain ⟨sights, hok, hfake, husb⟩ := showAlike_startDebug hboard htable hstrategy rfl hmessage
    (showAlike_steps hboard hsession hlistening hs hd' hlength)
  exact ⟨sights, hok, hfake _ rfl, husb (c, link) ⟨rfl, hmirrors⟩⟩

end Debug

end Controller

/-- A step into a procedure, over USB. -/
theorem Controller.debug_over_usb_sample :
    let d := SimulatedDevice.sample [0x2100, 0x2300]
    let errands := .startDebug (.ok Program.sample) :: stepErrands [.stepInto]
    ∃ link sights, Hf2Link.connect .standard (ChattyBus.like d) = .ok link ∧
      (∀ sight ∈ sights, ∃ message, sight.result = .ok message) ∧
      (∀ seen, Seen (fun _ _ => False) SimulatedDevice.shown (Controller.new .standard, d) errands
        seen ↔ seen = sights) ∧
      ∀ seen, Seen Listens (fun link : Hf2Link ChattyBus => link.bus.board.shown)
        (Controller.new .standard, link) errands seen ↔ seen = sights := by
  intro d errands
  let table : BreakpointTable := ⟨⟨0, 0, []⟩, Program.sample.breakpoints.tail⟩
  have htable : BreakpointTable.ofList? Program.sample.breakpoints = some table := rfl
  have hentry : table.entry? = some ⟨1, 0x2100, [3, 4]⟩ := by decide +kernel
  have hstrategy : (Controller.new .standard).config.strategy ≠ .poll := by decide
  have hlength : [StepCommand.stepInto].length = [(0x2300 : UInt32)].length := rfl
  have hlike : (ChattyBus.like d).board.machine.IsLike d := ⟨rfl, rfl, rfl, rfl⟩
  have hfits : d.globalsAddress.toNat + 4 * d.globalCount.toNat ≤ UInt32.size := by decide +kernel
  obtain ⟨link, hconnect⟩ : ∃ link, Hf2Link.connect .standard (ChattyBus.like d) = .ok link :=
    ⟨_, rfl⟩
  obtain ⟨sights, hsights⟩ := debug_over_usb ChattyBus.isBoard hconnect rfl rfl rfl hlike htable
    hentry hstrategy rfl rfl rfl hlength hfits
  exact ⟨link, sights, hconnect, hsights⟩

end BoardDebug
