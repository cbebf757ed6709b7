import BoardDebug.Proofs.Hf2.Serving
import BoardDebug.Proofs.Session.Interchange
import BoardDebug.Proofs.Session.Walk

namespace BoardDebug

open Call Hf2 Relation Routine

variable {β : Type} {options : Options} {view : β → Board}

namespace Session

variable {α : Type} {s s' : Session} {link : Hf2Link β} {d : SimulatedDevice} {runs : Bool}

theorem setRunning_fulfill (s : Session) (pc : UInt32) :
    (s.fulfill pc).setRunning = s.setRunning.fulfill pc := by
  unfold fulfill setRunning Latch.fulfill Latch.complete
  cases harmed : s.latch.armed <;> simp [Latch.setRunning, harmed]

theorem foldl_notify (s : Session) (events : List Event) :
    events.foldl (fun s e => notify true e s) s = (placesTold events).foldl fulfill s := by
  induction events generalizing s with
  | nil => rfl
  | cons event events ih =>
    have htold : placesTold (event :: events) = placesTold [event] ++ placesTold events :=
      placesTold_append [event] events
    rw [List.foldl_cons, ih, htold, List.foldl_append]
    congr 1
    by_cases hcode : event.code = Opcode.paused
    · cases hplace : haltPlace event.payload <;>
        simp [notify, placesTold, hcode, hplace, Except.toOption]
    · simp [notify, placesTold, hcode]

/-- A session over USB with a wait, if it has one, and the same session on a simulated device. -/
structure Same (options : Options) (view : β → Board) (runs : Bool) (wait : Option Nat)
    (p : Session × Hf2Link β) (q : Session × SimulatedDevice) : Prop where
  mirrors : p.2.Mirrors options view q.2 runs []
  session_eq : p.1 = q.1
  wait_eq : p.1.wait = wait

/-- A session over USB that may have to hear yet of the halt that it waits for. -/
inductive Late (options : Options) (view : β → Board) (p : Session × Hf2Link β)
    (q : Session × SimulatedDevice) : Prop where
  | same (wait : Option Nat) (h : Same options view true wait p q)
  | behind (pc : UInt32) (h : p.2.Mirrors options view q.2 true [pc]) (hq : q.1 = p.1.fulfill pc)
    (hwaits : p.1.outcome? = none)

/-- What is heard of a halt to come is the halt, or nothing. -/
theorem late_of_told (pc : Option UInt32) {told untold : List UInt32}
    (htold : told ++ untold = pc.toList) (h : link.Mirrors options view d true untold)
    (hwaits : s.outcome? = none) :
    Late options view (told.foldl fulfill s, link) (pc.toList.foldl fulfill s, d) := by
  cases pc with
  | none =>
    obtain ⟨rfl, rfl⟩ := List.append_eq_nil_iff.1 htold
    exact .same _ ⟨h, rfl, rfl⟩
  | some pc =>
    cases told with
    | nil =>
      obtain rfl : untold = [pc] := htold
      exact .behind pc h rfl hwaits
    | cons first told =>
      obtain ⟨rfl, hrest⟩ := List.cons.inj htold
      obtain ⟨rfl, rfl⟩ := List.append_eq_nil_iff.1 hrest
      exact .same _ ⟨h, rfl, rfl⟩

theorem Late.set {p : Session × Hf2Link β} {q : Session × SimulatedDevice} {f : Session → Session}
    (h : Late options view p q) (hfulfill : ∀ s pc, f (s.fulfill pc) = (f s).fulfill pc)
    (hwaits : ∀ s, (f s).outcome? = s.outcome?) : Late options view (f p.1, p.2) (f q.1, q.2) := by
  cases h with
  | same wait h => exact .same _ ⟨h.mirrors, congrArg f h.session_eq, rfl⟩
  | behind pc h hq hnone => exact .behind pc h (by rw [hq, hfulfill]) (by rw [hwaits, hnone])

theorem Late.phase {p : Session × Hf2Link β} {q : Session × SimulatedDevice}
    (h : Late options view p q) : p.1.phase = q.1.phase := by
  cases h with
  | same wait h => rw [h.session_eq]
  | behind pc h hq hwaits => rw [hq]; rfl

theorem Late.exists_mirrors {p : Session × Hf2Link β} {q : Session × SimulatedDevice}
    (h : Late options view p q) : ∃ untold, p.2.Mirrors options view q.2 true untold := by
  cases h with
  | same wait h => exact ⟨[], h.mirrors⟩
  | behind pc h hq hwaits => exact ⟨[pc], h⟩

/-- Whoever has been told of all halts is not late. -/
theorem Late.same_of_mirrors {p : Session × Hf2Link β} {q : Session × SimulatedDevice}
    (h : Late options view p q) (hmirrors : p.2.Mirrors options view q.2 true []) :
    ∃ wait, Same options view true wait p q := by
  cases h with
  | same wait h => exact ⟨wait, h⟩
  | behind pc h hq hwaits => cases h.untold_unique hmirrors

/-- Whoever is ready is not late. -/
theorem Late.same_of_ready {p : Session × Hf2Link β} {q : Session × SimulatedDevice}
    {outcome : HaltOutcome} (h : Late options view p q) (hready : p.1.outcome? = some outcome) :
    ∃ wait, Same options view true wait p q := by
  cases h with
  | same wait h => exact ⟨wait, h⟩
  | behind pc h hq hwaits => cases hwaits.symm.trans hready

variable [UsbBus β]

/-- Without a halt to come, nothing is heard. -/
theorem Same.hand (hboard : IsBoard options view) {wait : Option Nat}
    {q : Session × SimulatedDevice} (h : Same options view runs wait (s, link) q) :
    Same options view runs wait
      (link.listened.1.foldl (fun s e => notify true e s) s, link.listened.2) q := by
  obtain ⟨untold, htold, hhanded⟩ := h.mirrors.hand hboard
  obtain ⟨hnone, rfl⟩ := List.append_eq_nil_iff.1 htold
  rw [foldl_notify, hnone]
  exact ⟨hhanded, h.session_eq, h.wait_eq⟩

/-- A session that may be late may hear of its halt. -/
theorem Late.hand (hboard : IsBoard options view) {q : Session × SimulatedDevice}
    (h : Late options view (s, link) q) :
    Late options view
      (link.listened.1.foldl (fun s e => notify true e s) s, link.listened.2) q := by
  obtain ⟨s', d⟩ := q
  cases h with
  | same wait h => exact .same wait (h.hand hboard)
  | behind pc h hq hwaits =>
    obtain ⟨untold, htold, hhanded⟩ := h.hand hboard
    obtain rfl : s' = s.fulfill pc := hq
    rw [foldl_notify]
    exact late_of_told (some pc) htold hhanded hwaits

section Keeps

variable {wait : Option Nat}

/-- A routine that does the same over USB and on a simulated device, and waits for no halt. -/
abbrev Keeps (options : Options) (view : β → Board) (runs : Bool) (wait : Option Nat)
    (r : Routine Session α) : Prop :=
  Alike (notify true) (notify true) (Same options view runs wait) r r

theorem keeps_get {f : Session → Routine Session α} (h : ∀ s, Keeps options view runs wait (f s)) :
    Keeps options view runs wait (get >>= f) := by
  refine alike_get ?_
  rintro s link _ d ⟨-, rfl, -⟩
  exact h s

theorem keeps_set {f : Session → Session} (hf : ∀ s, (f s).wait = s.wait) :
    Keeps options view runs wait (modify f) :=
  alike_modify fun s _ _ _ h => ⟨h.mirrors, congrArg f h.session_eq, (hf s).trans h.wait_eq⟩

theorem keeps_ask (hboard : IsBoard options view) {request : Request} (hgranted : request.IsGranted)
    (hgoes : request.goes = false) : Keeps options view runs wait (ask request) := by
  refine alike_ask ?_
  rintro s link _ d ⟨hmirrors, rfl, hwait⟩
  have hstarts : request.starts → runs = false := by
    simp [(Bool.or_eq_false_iff.1 hgoes).1]
  have hnone : d.haltFrom request = none := by
    simp [SimulatedDevice.haltFrom, hgoes]
  obtain ⟨hanswer, hfake, untold, htold, hserved⟩ := hmirrors.serve hboard hgranted hstarts
  rw [hnone] at hfake htold
  obtain ⟨hover, rfl⟩ := List.append_eq_nil_iff.1 htold
  rw [hgoes, Bool.or_false] at hserved
  refine ⟨hanswer, ?_⟩
  rw [foldl_notify, foldl_notify, hfake]
  have hsame : (placesTold (link.serve request).events).foldl fulfill s = s :=
    congrArg (List.foldl fulfill s) hover
  exact ⟨hserved, hsame, (congrArg Session.wait hsame).trans hwait⟩

variable (hboard : IsBoard options view)

include hboard

theorem keeps_fetchArea : Keeps options view runs wait fetchArea := by
  have hfetch : Keeps options view runs wait GlobalsArea.fetch := by
    refine alike_bind (keeps_ask hboard Request.isGranted_getGlobals (by decide)) fun reply => ?_
    cases GlobalsArea.ofReply reply with
    | ok area => exact alike_pure _
    | error what => exact alike_fail _
  refine keeps_get fun s => ?_
  cases s.area with
  | some area => exact alike_pure _
  | none =>
    exact alike_bind hfetch fun area =>
      alike_bind (keeps_set fun _ => rfl) fun _ => alike_pure _

theorem keeps_writeStatus (status : DebugStatus) :
    Keeps options view runs wait (writeStatus status) := by
  refine keeps_get fun s => ?_
  split
  · exact alike_pure _
  · refine alike_bind (keeps_fetchArea hboard) fun area => ?_
    refine alike_bind (keeps_ask hboard (Request.isGranted_writeWords _ _) rfl) fun _ => ?_
    exact alike_bind (keeps_set fun _ => rfl) fun _ => alike_pure _

theorem keeps_halted (pc : UInt32) : Keeps options view runs wait (halted pc) := by
  refine alike_bind (keeps_fetchArea hboard) fun area => keeps_get fun s => ?_
  have htake : Keeps options view runs wait (Snapshot.take area s.index (some (s.place pc))) := by
    refine alike_bind (keeps_ask hboard (Request.isGranted_readWords _ _) rfl) fun words => ?_
    split
    · exact alike_pure _
    · exact alike_fail _
  refine alike_bind htake fun snapshot => alike_bind (keeps_set fun _ => rfl) fun _ => ?_
  split
  · refine alike_bind (keeps_writeStatus hboard _) fun _ => ?_
    exact alike_bind (keeps_set fun _ => rfl) fun _ => alike_pure _
  · exact alike_bind (keeps_set fun _ => rfl) fun _ => alike_pure _

end Keeps

section Leads

variable {before mid after : Session × Hf2Link β → Session × SimulatedDevice → Prop}

/-- A routine that has the same result over USB and on a simulated device. It goes from sessions
with `before` to sessions with `after`, if it goes well. -/
def Leads (before after : Session × Hf2Link β → Session × SimulatedDevice → Prop)
    (r : Routine Session α) : Prop :=
  ∀ s link s' d, before (s, link) (s', d) →
    (run (notify true) r s link).result = (run (notify true) r s' d).result ∧
      ∀ a, (run (notify true) r s' d).result = some (.ok a) →
        after ((run (notify true) r s link).state, (run (notify true) r s link).link)
          ((run (notify true) r s' d).state, (run (notify true) r s' d).link)

theorem leads_of_alike {r : Routine Session α} (h : Alike (notify true) (notify true) before r r) :
    Leads before before r := by
  intro s link s' d hbefore
  obtain ⟨hresult, hends⟩ := h s link s' d hbefore
  exact ⟨hresult, fun _ _ => hends⟩

theorem leads_fail (e : SessionError) : Leads before after (fail e : Routine Session α) :=
  fun _ _ _ _ _ => ⟨rfl, nofun⟩

theorem leads_modify {f : Session → Session}
    (h : ∀ s link s' d, before (s, link) (s', d) → after (f s, link) (f s', d)) :
    Leads before after (modify f) :=
  fun s link s' d hbefore => ⟨rfl, fun _ _ => h s link s' d hbefore⟩

theorem leads_get {f : Session → Routine Session α} (hsame : ∀ p q, before p q → p.1 = q.1)
    (h : ∀ s, Leads before after (f s)) : Leads before after (get >>= f) := by
  intro s link s' d hbefore
  obtain rfl : s = s' := hsame _ _ hbefore
  exact h s s link s d hbefore

theorem leads_bind {α' : Type} {r : Routine Session α'} {f : α' → Routine Session α}
    (hr : Leads before mid r) (hf : ∀ a, Leads mid after (f a)) :
    Leads before after (r >>= f) := by
  intro s link s' d hbefore
  obtain ⟨hresult, hmid⟩ := hr s link s' d hbefore
  rw [Routine.run_bind, Routine.run_bind]
  unfold Call.Run.next Call.Run.andThen
  rw [hresult]
  rcases hrun : (run (notify true) r s' d).result with _ | e | a
  · exact ⟨rfl, nofun⟩
  · exact ⟨rfl, nofun⟩
  · exact hf a _ _ _ _ (hmid a hrun)

/-- The same session on both sides, with a wait that nothing has ended. -/
structure Waits (options : Options) (view : β → Board) (runs : Bool) (p : Session × Hf2Link β)
    (q : Session × SimulatedDevice) : Prop where
  mirrors : p.2.Mirrors options view q.2 runs []
  session_eq : p.1 = q.1
  waits : p.1.outcome? = none

theorem outcome?_arm (h : s.wait = none) : s.arm.outcome? = none := by
  rw [arm_of_none h]
  simp only [outcome?, Latch.state_arm]

theorem leads_arm {f : Session → Session} (hf : ∀ s, (f s).outcome? = s.outcome?) :
    Leads (Same options view runs none) (Waits options view runs) (modify fun s => f s.arm) := by
  refine leads_modify fun s link s' d h => ⟨h.mirrors, congrArg (fun s => f s.arm) h.session_eq, ?_⟩
  rw [hf, outcome?_arm h.wait_eq]

/-- A device that is set going halts somewhere, of which it may tell later. -/
theorem leads_go (hboard : IsBoard options view) {request : Request} (hgranted : request.IsGranted)
    (hgoes : request.goes = true) (hstarts : request.starts → runs = false) :
    Leads (Waits options view runs) (Late options view) (ask request) := by
  rintro s link _ d ⟨hmirrors, rfl, hwaits⟩
  obtain ⟨hanswer, hfake, untold, htold, hserved⟩ := hmirrors.serve hboard hgranted hstarts
  rw [hgoes, Bool.or_true] at hserved
  have hlate := late_of_told (s := s) _ htold hserved hwaits
  rw [← hfake, ← foldl_notify, ← foldl_notify] at hlate
  rw [run_ask, run_ask]
  dsimp only
  have hanswer' : (Link.serve link request).answer = (Link.serve d request).answer := hanswer
  rw [hanswer']
  cases (Link.serve d request).answer with
  | ok reply => exact ⟨rfl, fun _ _ => hlate⟩
  | error e => exact ⟨rfl, nofun⟩

theorem leads_armed :
    Leads (Late options view) (Late options view)
      (modify fun s => { s.setRunning with phase := .armed }) := by
  refine leads_modify fun s link s' d h => ?_
  refine h.set (f := fun s => { s.setRunning with phase := .armed }) (fun s pc => ?_) fun s => rfl
  exact congrArg (fun s : Session => { s with phase := .armed }) (setRunning_fulfill s pc)

variable (hboard : IsBoard options view)

include hboard

theorem leads_flashAndArm :
    Leads (Same options view false none) (Late options view) flashAndArm := by
  refine leads_get (fun _ _ h => h.session_eq) fun s => ?_
  cases s.table.entry? with
  | none => exact leads_fail _
  | some entry =>
    refine leads_bind (leads_of_alike (keeps_set fun _ => rfl)) fun _ => ?_
    refine leads_bind (leads_of_alike
      (keeps_ask hboard (Request.isGranted_setBreakpoints _) rfl)) fun _ => ?_
    -- The wait begins before the image is flashed, and so before the first halt can come.
    refine leads_bind (leads_arm (f := fun s => { s with phase := .flashing }) fun _ => rfl)
      fun _ => leads_get (fun _ _ h => h.session_eq) fun s => ?_
    exact leads_bind (leads_go hboard (Request.isGranted_flash _) rfl fun _ => rfl)
      fun _ => leads_armed

theorem leads_step (into : Bool) :
    Leads (Same options view true none) (Late options view) (step into) := by
  have hexpect : Keeps options view true none (expectPhase .paused) := by
    refine keeps_get fun s => ?_
    split
    · exact alike_pure _
    · exact alike_fail _
  refine leads_bind (leads_of_alike hexpect) fun _ =>
    leads_get (fun _ _ h => h.session_eq) fun s => ?_
  cases s.current with
  | none => exact leads_fail _
  | some current =>
    refine leads_bind (leads_of_alike (keeps_set fun _ => rfl)) fun _ => ?_
    refine leads_bind (leads_of_alike
      (keeps_ask hboard (Request.isGranted_setBreakpoints _) rfl)) fun _ => ?_
    refine leads_bind (leads_of_alike (keeps_writeStatus hboard _)) fun _ => ?_
    refine leads_bind (leads_arm (f := id) fun _ => rfl) fun _ => ?_
    refine leads_bind (leads_go hboard Request.isGranted_resume rfl ?_) fun _ => leads_armed
    simp [Request.resume, Request.starts, Request.kind]

/-- A wait that is over leaves the same session on both sides. -/
theorem leads_closeWait {wait : Option Nat} (outcome : HaltOutcome) :
    Leads (Same options view true wait) (Same options view true none) (closeWait outcome) := by
  have hdrop : Leads (Same options view true wait) (Same options view true none)
      (modify dropWait) :=
    leads_modify fun s link s' d h =>
      ⟨h.mirrors, congrArg dropWait h.session_eq, s.wait_dropWait⟩
  refine leads_bind hdrop fun _ => ?_
  cases outcome with
  | halted pc => exact leads_of_alike (keeps_halted hboard pc)
  | failed error => exact leads_fail _
  | superseded => exact leads_fail _

end Leads

end Session

namespace Controller

variable [UsbBus β] {α : Type} {link : Hf2Link β} {d : SimulatedDevice}
  {before after R : Session × Hf2Link β → Session × SimulatedDevice → Prop}
  {p p' : Controller × Hf2Link β} {q : Controller × SimulatedDevice}

/-- What a session may hear over USB by itself. -/
def Listens (p p' : Controller × Hf2Link β) : Prop :=
  p' = (p.2.listened.1.foldl (fun c e => notify e c) p.1, p.2.listened.2)

/-- Controllers that are the same but for their sessions, which are related. -/
def On (R : Session × Hf2Link β → Session × SimulatedDevice → Prop) (p : Controller × Hf2Link β)
    (q : Controller × SimulatedDevice) : Prop :=
  ∃ s s', p.1.session = some s ∧ q.1 = p.1.seat s' ∧ p.1.listening = true ∧ R (s, p.2) (s', q.2)

/-- A call on the sessions does the same in both places. -/
theorem leads_onSession {call : Routine Session α} (h : Session.Leads before after call)
    (hon : On before p q) :
    let r := Routine.run notify (onSession call) p.1 p.2
    let r' := Routine.run notify (onSession call) q.1 q.2
    r.result = r'.result ∧
      ∀ a, r'.result = some (.ok a) → On after (r.state, r.link) (r'.state, r'.link) := by
  obtain ⟨c, link⟩ := p
  obtain ⟨_, d⟩ := q
  obtain ⟨s, s', hs, rfl, hlistening, hbefore⟩ := hon
  dsimp only at hs hlistening hbefore ⊢
  have hs' : (c.seat s').session = some s' := rfl
  have hlistening' : (c.seat s').listening = true := hlistening
  obtain ⟨hresult, hafter⟩ := h s link s' d hbefore
  rw [run_onSession hs, run_onSession hs', hlistening, hlistening']
  generalize Routine.run (Session.notify true) call s link = r at hresult hafter
  generalize Routine.run (Session.notify true) call s' d = r' at hresult hafter
  obtain ⟨result, t, e⟩ := r
  obtain ⟨result', t', e'⟩ := r'
  obtain rfl : result = result' := hresult
  rcases result with _ | error | a
  · exact ⟨rfl, nofun⟩
  · exact ⟨rfl, nofun⟩
  · exact ⟨rfl, fun _ _ => ⟨t, t', rfl, rfl, hlistening, hafter a rfl⟩⟩

theorem foldl_notify_seat (events : List Event) (s : Session) (c : Controller) :
    events.foldl (fun c e => notify e c) (c.seat s) =
      c.seat (events.foldl (fun s e => Session.notify c.listening e s) s) := by
  induction events generalizing s with
  | nil => rfl
  | cons event events ih => rw [List.foldl_cons, List.foldl_cons, notify_seat, ih]

theorem foldl_notify_of_untold (c : Controller) {events : List Event} (h : placesTold events = []) :
    events.foldl (fun c e => notify e c) c = c := by
  induction events with
  | nil => rfl
  | cons event events ih =>
    have htold : placesTold [event] ++ placesTold events = [] :=
      (placesTold_append [event] events).symm.trans h
    obtain ⟨hfirst, hrest⟩ := List.append_eq_nil_iff.1 htold
    have hnotify : notify event c = c := by
      unfold notify
      split
      case isTrue hpaused =>
        cases hplace : haltPlace event.payload with
        | ok pc => simp [placesTold, hpaused.2, hplace, Except.toOption] at hfirst
        | error what => rfl
      case isFalse => rfl
    rw [List.foldl_cons, hnotify, ih hrest]

/-- What holds of the sessions holds after more was heard, if it is kept by that. -/
theorem On.hand
    (hhand : ∀ s link q, R (s, link) q →
      R (link.listened.1.foldl (fun s e => Session.notify true e s) s, link.listened.2) q)
    (hon : On R p q) (hpassed : ReflTransGen Listens p p') : On R p' q := by
  induction hpassed with
  | refl => exact hon
  | tail _ hlast ih =>
    obtain ⟨s, s', hs, hq, hlistening, hR⟩ := ih
    subst hlast
    rw [← seat_of_session hs, foldl_notify_seat]
    refine ⟨_, s', rfl, hq, hlistening, ?_⟩
    rw [hlistening]
    exact hhand _ _ _ hR

/-- Some time the session has heard of its halt. -/
theorem exists_all_told (hboard : IsBoard options view)
    (hlate : On (Session.Late options view) p q) :
    ∃ p' wait, ReflTransGen Listens p p' ∧ On (Session.Same options view true wait) p' q := by
  -- Listening again and again, and nothing else, is one way in which time may pass.
  let hears (p : Controller × Hf2Link β) : Controller × Hf2Link β :=
    (p.2.listened.1.foldl (fun c e => notify e c) p.1, p.2.listened.2)
  have hpassed (count : Nat) : ReflTransGen Listens p (hears^[count] p) ∧
      (hears^[count] p).2 = (fun link => link.listened.2)^[count] p.2 := by
    induction count with
    | zero => exact ⟨.refl, rfl⟩
    | succ count ih =>
      rw [Function.iterate_succ_apply', Function.iterate_succ_apply', ← ih.2]
      exact ⟨ih.1.tail rfl, rfl⟩
  obtain ⟨s, s', -, -, -, hsessions⟩ := id hlate
  obtain ⟨untold, hmirrors⟩ := hsessions.exists_mirrors
  obtain ⟨count, hnone⟩ := hmirrors.exists_told hboard
  obtain ⟨hlistens, hlink⟩ := hpassed count
  obtain ⟨t, t', ht, hq, hlistening, hthen⟩ := hlate.hand (fun _ _ _ => .hand hboard) hlistens
  rw [← hlink] at hnone
  obtain ⟨wait, hsame⟩ := hthen.same_of_mirrors hnone
  exact ⟨_, wait, hlistens, t, t', ht, hq, hlistening, hsame⟩

/-- A wait that can end goes on with what is left of it. -/
theorem run_waitForHalt {δ : Type} [Link δ] {c : Controller} {s : Session} {outcome : HaltOutcome}
    (hs : c.session = some s) (hphase : s.phase = .armed) (houtcome : s.outcome? = some outcome)
    (link : δ) :
    Routine.run notify waitForHalt c link =
      Routine.run notify (onSession (Session.closeWait outcome)) c link := by
  obtain ⟨ready, next, hheeds, hwait⟩ := exists_heeds hs hphase
  have hready := (hheeds.ready hs).trans houtcome
  unfold Routine.run
  rw [hwait, ← hheeds.next outcome hs]
  exact Call.run_await_of_some hready link

theorem run_waitForHalt_of_none {δ : Type} [Link δ] {c : Controller} {s : Session}
    (hs : c.session = some s) (hphase : s.phase = .armed) (houtcome : s.outcome? = none)
    (link : δ) : (Routine.run notify waitForHalt c link).result = none := by
  obtain ⟨ready, next, hheeds, hwait⟩ := exists_heeds hs hphase
  have hready := (hheeds.ready hs).trans houtcome
  unfold Routine.run
  rw [hwait]
  exact congrArg Call.Run.result (Call.run_await_of_none hready link)

/-- A wait that comes to a message was one for a halt that is there. -/
theorem armed_of_waitForHalt {δ : Type} [Link δ] {c : Controller} {s : Session} {link : δ}
    {message : HaltMessage} (hs : c.session = some s)
    (hmessage : (Routine.run notify waitForHalt c link).result = some (.ok message)) :
    s.phase = .armed ∧ ∃ outcome, s.outcome? = some outcome := by
  by_cases hphase : s.phase = .armed
  · refine ⟨hphase, Option.ne_none_iff_exists'.1 fun hnone => ?_⟩
    rw [run_waitForHalt_of_none hs hphase hnone] at hmessage
    cases hmessage
  · unfold Routine.run at hmessage
    rw [waitForHalt_of_ne hs hphase] at hmessage
    cases hmessage

variable (hboard : IsBoard options view) (hlate : On (Session.Late options view) p q)
  {message : HaltMessage}
  (hmessage : (Routine.run notify waitForHalt q.1 q.2).result = some (.ok message))

include hboard hlate hmessage

/-- A wait over USB that ends brings the same message as on the simulated device. -/
theorem waitForHalt_agrees
    {r : Run Controller (Hf2Link β) (Except SessionError HaltMessage)}
    (h : Outcome notify Listens (waitForHalt p.1) p.2 r) :
    r.result = none ∨ r.result = some (.ok message) ∧
      On (Session.Same options view true none) (r.state, r.link)
        ((Routine.run notify waitForHalt q.1 q.2).state,
          (Routine.run notify waitForHalt q.1 q.2).link) := by
  obtain ⟨s, s', hs, hq, -, hsessions⟩ := id hlate
  have hs' : q.1.session = some s' := by rw [hq]; rfl
  obtain ⟨hphase', outcome', houtcome'⟩ := armed_of_waitForHalt hs' hmessage
  obtain ⟨ready, next, hheeds, hwait⟩ := exists_heeds hs (hsessions.phase.trans hphase')
  rw [hwait] at h
  cases h with
  | givenUp => exact .inl rfl
  | @woken _ c _ _ _ link outcome _ hpassed hready hrest =>
    -- A session that is ready has heard of the halt, so that both go on with the same one.
    obtain ⟨t, t', ht, hq', hlistening, hthen⟩ := hlate.hand (fun _ _ _ => .hand hboard) hpassed
    rw [hheeds.ready ht] at hready
    obtain ⟨wait, hsame⟩ := hthen.same_of_ready hready
    have ht' : q.1.session = some t' := by rw [hq']; rfl
    obtain rfl : s' = t' := Option.some.inj (hs'.symm.trans ht')
    have hsession : t = s' := hsame.session_eq
    have hready' : s'.outcome? = some outcome := hsession ▸ hready
    have hrun := run_waitForHalt ht' hphase' hready' q.2
    rw [hheeds.next outcome ht] at hrest
    have hr := hrest.eq_run (isDirect_onSession (Session.isDirect_closeWait outcome) c)
    obtain ⟨hresult, hafter⟩ := leads_onSession (Session.leads_closeWait hboard outcome)
      (p := (c, link)) ⟨t, s', ht, hq', hlistening, hsame⟩
    rw [hrun] at hmessage ⊢
    refine .inr ⟨?_, ?_⟩
    · rw [hr]
      exact hresult.trans hmessage
    · rw [hr]
      exact hafter message hmessage

/-- A wait over USB ends some time. -/
theorem exists_waitForHalt :
    ∃ r, Outcome notify Listens (waitForHalt p.1) p.2 r ∧ r.result = some (.ok message) := by
  obtain ⟨p', wait, hpassed, t, t', ht, hq', hlistening, hsame⟩ := exists_all_told hboard hlate
  obtain ⟨s, s', hs, hq, -, hsessions⟩ := id hlate
  have hs' : q.1.session = some s' := by rw [hq]; rfl
  have ht' : q.1.session = some t' := by rw [hq']; rfl
  obtain rfl : s' = t' := Option.some.inj (hs'.symm.trans ht')
  obtain ⟨hphase', outcome, houtcome⟩ := armed_of_waitForHalt hs' hmessage
  obtain ⟨ready, next, hheeds, hwait⟩ := exists_heeds hs (hsessions.phase.trans hphase')
  have hsession : t = s' := hsame.session_eq
  have hready : ready p'.1 = some outcome := (hheeds.ready ht).trans (hsession ▸ houtcome)
  rw [run_waitForHalt ht' hphase' houtcome] at hmessage
  obtain ⟨hresult, -⟩ := leads_onSession (Session.leads_closeWait hboard outcome)
    ⟨t, s', ht, hq', hlistening, hsame⟩
  have hrest : Outcome notify Listens (next outcome p'.1) p'.2 _ := outcome_run _ _
  rw [hwait]
  refine ⟨_, .woken hpassed hready hrest, ?_⟩
  rw [hheeds.next outcome ht]
  exact hresult.trans hmessage

omit hboard hlate hmessage

section Start

variable {c : Controller} {program : Program} {table : BreakpointTable}

theorem run_start {δ : Type} [Link δ] {has : Capabilities}
    (htable : BreakpointTable.ofList? program.breakpoints = some table)
    (hevents : has.events) (hstrategy : c.config.strategy ≠ .poll) (link : δ) :
    Routine.run notify (start has (.ok program)) c link =
      Routine.run notify (onSession Session.flashAndArm)
        (c.embark (.new program table .push) .push) link := by
  unfold Routine.run
  rw [start_eq, opening_push htable hevents hstrategy]

/-- A start does the same over USB as on the simulated device. -/
theorem leads_start (hboard : IsBoard options view)
    (htable : BreakpointTable.ofList? program.breakpoints = some table)
    (hstrategy : c.config.strategy ≠ .poll) (h : link.Mirrors options view d false []) :
    let r := Routine.run notify (start (Link.capabilities link) (.ok program)) c link
    let r' := Routine.run notify (start d.capabilities (.ok program)) c d
    r.result = r'.result ∧ ∀ a, r'.result = some (.ok a) →
      On (Session.Late options view) (r.state, r.link) (r'.state, r'.link) := by
  intro r r'
  let begun := c.embark (.new program table .push) .push
  have hlistening : begun.listening = true := by simp [begun, embark]
  have hon : On (Session.Same options view false none) (begun, link) (begun, d) :=
    ⟨_, _, rfl, rfl, hlistening, h, rfl, rfl⟩
  have hleads := leads_onSession (Session.leads_flashAndArm hboard) hon
  rw [show r = _ from run_start htable rfl hstrategy link,
    show r' = _ from run_start htable h.tells hstrategy d]
  exact hleads

end Start

end Controller

end BoardDebug
