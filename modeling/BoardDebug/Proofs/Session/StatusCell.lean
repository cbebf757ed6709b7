import BoardDebug.Proofs.Session.Coherence

namespace BoardDebug

open Call Routine Contact

namespace Errand

/-- What may come of an errand, with the requests that are acknowledged. -/
def Records (errand : Errand) (w : World) (contacts : List (Contact SimulatedDevice))
    (r : Run Controller SimulatedDevice (Except SessionError errand.Reply)) : Prop :=
  Outcome Controller.notify (Ledger.Happens World.Happens) (errand.routine w.2.capabilities w.1)
    ⟨w.2, []⟩ ⟨r.result, r.state, ⟨r.link, contacts⟩⟩

/-- The kind of step that an errand asks for, if it asks for one. -/
def step? : Errand → Option Bool
  | step into => some into
  | handle command => some command.isInto
  | _ => none

/-- What the status cell has to hold for the device to go on. -/
def allowed (errand : Errand) : Option UInt32 :=
  errand.step?.map fun into => (stepStatus into).word

variable {errand : Errand} {w : World}
  {r : Run Controller SimulatedDevice (Except SessionError errand.Reply)}

theorem performs_iff_records : errand.Performs w r ↔ ∃ contacts, errand.Records w contacts r :=
  ⟨fun h => h.enter [], fun ⟨_, h⟩ => h.of_ledger⟩

end Errand

/-- An errand, and the requests that were acknowledged while it was done. -/
structure Deed where
  errand : Errand
  contacts : List (Contact SimulatedDevice)

namespace World

/-- A world can become another one by deeds, one after the other, and by what happens between
them. -/
inductive Chronicle : World → List Deed → World → Prop where
  | stay (w : World) : Chronicle w [] w
  | happen {w w' : World} {deeds : List Deed} (incident : Incident) :
      Chronicle (w.after incident) deeds w' → Chronicle w deeds w'
  | perform {w w' : World} {errand : Errand} {contacts : List (Contact SimulatedDevice)}
      {deeds : List Deed} {r : Run Controller SimulatedDevice (Except SessionError errand.Reply)} :
      errand.Records w contacts r → Chronicle (r.state, r.link) deeds w' →
      Chronicle w (⟨errand, contacts⟩ :: deeds) w'

variable {w w' : World} {deeds later : List Deed} {deed : Deed} {errands : List Errand}

/-- There is a chronicle of whatever is done. -/
theorem Course.chronicle (h : Course w errands w') :
    ∃ deeds, deeds.map Deed.errand = errands ∧ Chronicle w deeds w' := by
  induction h with
  | stay w => exact ⟨[], rfl, .stay w⟩
  | happen incident _ ih =>
    obtain ⟨deeds, rfl, h⟩ := ih
    exact ⟨deeds, rfl, .happen incident h⟩
  | perform hperforms _ ih =>
    obtain ⟨contacts, hrecords⟩ := Errand.performs_iff_records.1 hperforms
    obtain ⟨deeds, rfl, h⟩ := ih
    exact ⟨_, rfl, .perform hrecords h⟩

theorem Chronicle.course (h : Chronicle w deeds w') : Course w (deeds.map Deed.errand) w' := by
  induction h with
  | stay w => exact .stay w
  | happen incident _ ih => exact .happen incident ih
  | perform hrecords _ ih => exact .perform (Errand.performs_iff_records.2 ⟨_, hrecords⟩) ih

theorem Chronicle.of_append (h : Chronicle w (deeds ++ later) w') :
    ∃ mid, Chronicle w deeds mid ∧ Chronicle mid later w' := by
  generalize hall : deeds ++ later = all at h
  induction h generalizing deeds with
  | stay w =>
    obtain ⟨rfl, rfl⟩ := List.append_eq_nil_iff.1 hall
    exact ⟨w, .stay w, .stay w⟩
  | happen incident _ ih =>
    obtain ⟨mid, hfirst, hlater⟩ := ih hall
    exact ⟨mid, .happen incident hfirst, hlater⟩
  | perform hrecords hrest ih =>
    cases deeds with
    | nil =>
      cases hall
      exact ⟨_, .stay _, .perform hrecords hrest⟩
    | cons deed deeds =>
      cases hall
      obtain ⟨mid, hfirst, hlater⟩ := ih rfl
      exact ⟨mid, .perform hrecords hfirst, hlater⟩

/-- A chronicle of errands with nothing around them, and the world after them. -/
def chronicle (w : World) : List Errand → List Deed × World
  | [] => ([], w)
  | errand :: errands =>
    let ledger : Ledger SimulatedDevice := ⟨w.2, []⟩
    let r := Routine.run Controller.notify (errand.routine w.2.capabilities) w.1 ledger
    let (deeds, w') := chronicle (r.state, r.link.link) errands
    (⟨errand, r.link.account⟩ :: deeds, w')

theorem chronicle_spec (w : World) (errands : List Errand) :
    Chronicle w (w.chronicle errands).1 (w.chronicle errands).2 := by
  induction errands generalizing w with
  | nil => exact .stay w
  | cons errand errands ih =>
    let r := Routine.run Controller.notify (errand.routine w.2.capabilities) w.1
      (⟨w.2, []⟩ : Ledger SimulatedDevice)
    have hrecords : errand.Records w r.link.account ⟨r.result, r.state, r.link.link⟩ :=
      outcome_run _ _
    exact .perform hrecords (ih _)

end World

/-- All requests that were acknowledged. -/
def acknowledged (deeds : List Deed) : List (Contact SimulatedDevice) :=
  deeds.flatMap Deed.contacts

namespace Controller

variable {allowed : Option UInt32} {earlier : List (Contact SimulatedDevice)} {c : Controller}
  {l : Ledger SimulatedDevice}

/-- The account is in order, and so is what the session takes to be in its status cell. -/
structure Coherent (allowed : Option UInt32) (earlier : List (Contact SimulatedDevice))
    (c : Controller) (l : Ledger SimulatedDevice) : Prop where
  kept : IsKept allowed earlier l
  session : ∀ s, c.session = some s → s.Coherent allowed earlier l

theorem coherent_seat {s : Session} (h : s.Coherent allowed earlier l) (c : Controller) :
    (c.seat s).Coherent allowed earlier l := by
  refine ⟨h.toIsKept, ?_⟩
  rintro s' ⟨⟩
  exact h

theorem coherent_of_none (hkept : IsKept allowed earlier l) (hnone : c.session = none) :
    c.Coherent allowed earlier l :=
  ⟨hkept, by simp [hnone]⟩

/-- A call on the session is in order if it is so on every session. -/
theorem triple_onSession {α : Type} {call : Routine Session α}
    {before : Session → Ledger SimulatedDevice → Prop}
    (hcall : ∀ listening, Triple (Session.notify listening) (Ledger.Happens Session.Stirs) before
      call (fun _ => Session.Coherent allowed earlier) (Session.Coherent allowed earlier)) :
    Triple notify (Ledger.Happens World.Happens)
      (fun c l => IsKept allowed earlier l ∧ ∀ s, c.session = some s → before s l) (onSession call)
      (fun _ => Coherent allowed earlier) (Coherent allowed earlier) := by
  rintro c l r ⟨hkept, hbefore⟩ houtcome
  cases hsession : c.session with
  | none =>
    unfold onSession at houtcome
    simp only [hsession] at houtcome
    cases houtcome
    exact coherent_of_none hkept hsession
  | some s =>
    obtain ⟨run, hrun, rfl⟩ := outcome_of_lodges (lodges_seat c).ledger houtcome hsession
    have hs := hcall c.listening s l run (hbefore s hsession) hrun
    have hterminate : run.state.terminate.area = run.state.area ∧
        run.state.terminate.status = run.state.status := by
      rw [Session.terminate, Session.dropWait_eq]
      exact ⟨rfl, rfl⟩
    unfold adopt
    rcases hresult : run.result with _ | e | a <;> simp only [hresult] at hs ⊢
    · exact coherent_seat hs c
    · unfold settle
      dsimp only
      split
      · exact coherent_seat hs c
      · exact coherent_seat (hs.congr hterminate.1 hterminate.2) c
    · exact coherent_seat hs c

theorem isKept_of_empty (h : l.account = []) : IsKept allowed [] l := by
  refine ⟨?_, ?_, ?_⟩ <;> simp [h, statuses]

theorem coherent_of_opening {has : Capabilities} {compiled : Except CompileError Program}
    {config : SessionConfig} {s : Session} {observer : Observer}
    (h : opening has compiled config = .ok (s, observer)) (hempty : l.account = []) :
    s.Coherent allowed [] l ∧ s.status = none := by
  obtain ⟨program, table, -, -, -, rfl⟩ := opening_ok h
  refine ⟨⟨isKept_of_empty hempty, nofun, fun _ => ?_, nofun, ?_⟩, rfl⟩
  · simp [hempty]
  · simp [hempty, statuses, Session.new]

theorem triple_start (has : Capabilities) (compiled : Except CompileError Program) :
    Triple notify (Ledger.Happens World.Happens) (fun _ l => l.account = []) (start has compiled)
      (fun _ => Coherent allowed []) (Coherent allowed []) := by
  intro c l r hempty houtcome
  rw [start_eq] at houtcome
  cases hopening : opening has compiled c.config with
  | error e =>
    simp only [hopening] at houtcome
    cases houtcome
    exact coherent_of_none (isKept_of_empty hempty) rfl
  | ok begun =>
    obtain ⟨s, observer⟩ := begun
    simp only [hopening] at houtcome
    refine triple_onSession (fun _ => Session.triple_flashAndArm) _ l r ?_ houtcome
    refine ⟨isKept_of_empty hempty, ?_⟩
    rintro s' ⟨⟩
    exact coherent_of_opening hopening hempty

theorem triple_call {α : Type} {call : Routine Session α}
    (hcall : ∀ listening, Triple (Session.notify listening) (Ledger.Happens Session.Stirs)
      (Session.Coherent allowed earlier) call (fun _ => Session.Coherent allowed earlier)
      (Session.Coherent allowed earlier)) :
    Triple notify (Ledger.Happens World.Happens) (Coherent allowed earlier) (onSession call)
      (fun _ => Coherent allowed earlier) (Coherent allowed earlier) :=
  (triple_onSession hcall).under fun _ _ h => ⟨h.kept, h.session⟩

end Controller

namespace Errand

variable {errand : Errand} {earlier : List (Contact SimulatedDevice)}

/-- An errand that begins a session, with nothing acknowledged in it yet. -/
theorem triple_of_opens (hopens : errand.Opens) (has : Capabilities) :
    Triple Controller.notify (Ledger.Happens World.Happens) (fun _ l => l.account = [])
      (errand.routine has) (fun _ => Controller.Coherent errand.allowed [])
      (Controller.Coherent errand.allowed []) := by
  cases errand with
  | start compiled => exact Controller.triple_start has compiled
  | startDebug compiled =>
    exact triple_bind (Controller.triple_start has compiled) fun _ =>
      Controller.triple_call fun _ => Session.triple_waitForHalt
  | waitForHalt => exact hopens.elim
  | step into => exact hopens.elim
  | handle command => exact hopens.elim
  | writeStatus status => exact hopens.elim
  | finish => exact hopens.elim

theorem triple_of_not_opens (hopens : ¬errand.Opens) (has : Capabilities) :
    Triple Controller.notify (Ledger.Happens World.Happens)
      (Controller.Coherent errand.allowed earlier) (errand.routine has)
      (fun _ => Controller.Coherent errand.allowed earlier)
      (Controller.Coherent errand.allowed earlier) := by
  cases errand with
  | start compiled => exact absurd trivial hopens
  | startDebug compiled => exact absurd trivial hopens
  | waitForHalt => exact Controller.triple_call fun _ => Session.triple_waitForHalt
  | step into => exact Controller.triple_call fun _ => Session.triple_step into rfl
  | handle command => exact Controller.triple_call fun _ => Session.triple_step command.isInto rfl
  | writeStatus status =>
    exact Controller.triple_call fun _ => (Session.triple_writeStatus status).mono
      (fun _ _ h => h) (fun _ _ _ h => h.1) fun _ _ h => h
  | finish => exact triple_modify fun _ _ h => Controller.coherent_of_none h.kept rfl

end Errand

/-! What was acknowledged is put behind what was before, when the next call begins. -/

theorem IsKept.advance {allowed : Option UInt32} {earlier : List (Contact SimulatedDevice)}
    {l : Ledger SimulatedDevice} (h : IsKept allowed earlier l) (allowed' : Option UInt32) :
    IsKept allowed' (earlier ++ l.account) ⟨l.link, []⟩ where
  varied := by simpa using h.varied
  once := by simpa using h.once
  resumed := nofun

theorem Session.Coherent.advance {allowed : Option UInt32}
    {earlier : List (Contact SimulatedDevice)} {s : Session} {l : Ledger SimulatedDevice}
    (h : s.Coherent allowed earlier l) (allowed' : Option UInt32) :
    s.Coherent allowed' (earlier ++ l.account) ⟨l.link, []⟩ where
  toIsKept := h.toIsKept.advance allowed'
  area := h.area
  unasked := by simpa using h.unasked
  cell := h.cell
  last := by simpa using h.last

theorem Controller.Coherent.advance {allowed : Option UInt32}
    {earlier : List (Contact SimulatedDevice)} {c : Controller} {l : Ledger SimulatedDevice}
    (h : c.Coherent allowed earlier l) (allowed' : Option UInt32) :
    c.Coherent allowed' (earlier ++ l.account) ⟨l.link, []⟩ where
  kept := h.kept.advance allowed'
  session s hs := (h.session s hs).advance allowed'

namespace World

/-- What was acknowledged in the session is in order, and so is what it takes to be in its status
cell. -/
def Coherent (contacts : List (Contact SimulatedDevice)) (w : World) : Prop :=
  w.1.Coherent none contacts ⟨w.2, []⟩

variable {w w' : World} {deeds during : List Deed} {deed : Deed} {errand : Errand}
  {earlier contacts : List (Contact SimulatedDevice)}
  {r : Run Controller SimulatedDevice (Except SessionError errand.Reply)}

theorem coherent_of_account {allowed : Option UInt32} {c : Controller} {d : SimulatedDevice}
    (h : c.Coherent allowed earlier ⟨d, contacts⟩) : World.Coherent (earlier ++ contacts) (c, d) :=
  h.advance none

theorem coherent_of_opens (h : errand.Records w contacts r) (hopens : errand.Opens) :
    r.state.Coherent errand.allowed [] ⟨r.link, contacts⟩ :=
  (errand.triple_of_opens hopens w.2.capabilities).holds rfl h

theorem Coherent.perform (hw : w.Coherent earlier) (h : errand.Records w contacts r)
    (hopens : ¬errand.Opens) : r.state.Coherent errand.allowed earlier ⟨r.link, contacts⟩ := by
  have hbefore := Controller.Coherent.advance hw errand.allowed
  rw [List.append_nil] at hbefore
  exact (errand.triple_of_not_opens hopens w.2.capabilities).holds hbefore h

theorem Coherent.after (hw : w.Coherent earlier) (incident : Incident) :
    (w.after incident).Coherent earlier := by
  obtain ⟨c, d⟩ := w
  cases hsession : c.session with
  | none =>
    obtain ⟨d', hafter, -, -⟩ := after_of_none hsession d incident
    rw [hafter]
    exact Controller.coherent_of_none ⟨hw.kept.varied, hw.kept.once, nofun⟩ hsession
  | some s =>
    obtain ⟨s', d', hafter, hstirs⟩ := stirs_after c s d incident
    rw [Controller.seat_of_session hsession] at hafter
    have hs : s'.Coherent none earlier ⟨d', []⟩ := (hw.session s hsession).happens ⟨hstirs, rfl⟩
    rw [hafter]
    exact Controller.coherent_seat hs c

/-- A session is in order as long as no other one begins. -/
theorem Coherent.chronicle (hw : w.Coherent earlier) (h : Chronicle w deeds w')
    (hopens : ∀ deed ∈ deeds, ¬deed.errand.Opens) :
    w'.Coherent (earlier ++ acknowledged deeds) := by
  induction h generalizing earlier with
  | stay w => simpa [acknowledged] using hw
  | happen incident _ ih => exact ih (hw.after incident) hopens
  | @perform w w' errand contacts deeds r hrecords _ ih =>
    obtain ⟨hopen, hopens⟩ := List.forall_mem_cons.1 hopens
    have hlater := ih (coherent_of_account (hw.perform hrecords hopen)) hopens
    rwa [List.append_assoc] at hlater

/-- A session is in order from its beginning on. -/
theorem coherent_of_chronicle {opening : Deed} (h : Chronicle w (opening :: during) w')
    (hopening : opening.errand.Opens) (hopens : ∀ deed ∈ during, ¬deed.errand.Opens) :
    w'.Coherent (acknowledged (opening :: during)) := by
  generalize hall : opening :: during = all at h
  induction h with
  | stay => cases hall
  | happen incident _ ih => exact ih hall
  | @perform w w' errand contacts deeds r hrecords hrest _ =>
    cases hall
    exact (coherent_of_account (coherent_of_opens hrecords hopening)).chronicle hrest hopens

/-- At any time some contacts are those of the session in place. The device goes on only with the
status that the step asks for. -/
theorem Coherent.resumes (hw : w.Coherent earlier) (h : Chronicle w deeds w') :
    (∃ contacts, w'.Coherent contacts) ∧ ∀ deed ∈ deeds, ∀ contact ∈ deed.contacts,
      contact.Resumes → deed.errand.allowed = some contact.link.status := by
  induction h generalizing earlier with
  | stay w => exact ⟨⟨earlier, hw⟩, nofun⟩
  | happen incident _ ih => exact ih (hw.after incident)
  | @perform w w' errand contacts deeds r hrecords _ ih =>
    obtain ⟨before, hcoherent⟩ : ∃ before,
        r.state.Coherent errand.allowed before ⟨r.link, contacts⟩ := by
      by_cases hopens : errand.Opens
      · exact ⟨[], coherent_of_opens hrecords hopens⟩
      · exact ⟨earlier, hw.perform hrecords hopens⟩
    obtain ⟨hlast, hdeeds⟩ := ih (coherent_of_account hcoherent)
    exact ⟨hlast, List.forall_mem_cons.2 ⟨hcoherent.kept.resumed, hdeeds⟩⟩

theorem status_of_writeStatus {status : DebugStatus}
    {r : Run Controller SimulatedDevice (Except SessionError Bool)}
    (h : (Errand.writeStatus status).Performs w r) {written : Bool}
    (hr : r.result = some (.ok written)) :
    ∃ s, r.state.session = some s ∧ s.status = some status := by
  obtain ⟨-, rfl⟩ | ⟨s, run, -, hrun, rfl⟩ := Controller.outcome_onSession h
  · cases hr
  · have hresult := (Controller.result_adopt _ run).symm.trans hr
    rw [hrun.eq_run (Session.isDirect_writeStatus status s)] at hresult ⊢
    obtain ⟨-, hstate, -⟩ := (Session.ends_writeStatus s w.2 status).of_ok hresult
    rw [Controller.adopt, hresult]
    exact ⟨_, rfl, hstate ▸ Session.status_mark s status w.2⟩

/-- What a session takes to be in its status cell is there, whatever was done and whatever went
wrong. So a status that is not written is there already, the device goes on with the status of the
step, and within a session no status is written twice in a row and the device is asked for its
globals area once. -/
theorem status_cell_coherent {config : SessionConfig} {device : SimulatedDevice}
    (h : Chronicle (.new config, device) deeds w) :
    (∀ s status, w.1.session = some s → s.status = some status → w.2.status = status.word) ∧
    (∀ status (r : Run Controller SimulatedDevice (Except SessionError Bool)) written,
      (Errand.writeStatus status).Performs w r → r.result = some (.ok written) →
      r.link.status = status.word) ∧
    (∀ deed ∈ deeds, ∀ contact ∈ deed.contacts, contact.Resumes →
      ∃ into, deed.errand.step? = some into ∧ contact.link.status = if into then 3 else 1) ∧
    ∀ before opening during later, deeds = before ++ (opening :: during ++ later) →
      opening.errand.Opens → (∀ deed ∈ during, ¬deed.errand.Opens) →
      (statuses (acknowledged (opening :: during))).IsChain (· ≠ ·) ∧
        (acknowledged (opening :: during)).countP tellsGlobals ≤ 1 := by
  have hnew : World.Coherent [] (.new config, device) :=
    Controller.coherent_of_none (Controller.isKept_of_empty rfl) rfl
  have hcell {w : World} {contacts : List (Contact SimulatedDevice)} (hw : w.Coherent contacts)
      (s : Session) (status : DebugStatus) (hsession : w.1.session = some s)
      (hstatus : s.status = some status) : w.2.status = status.word :=
    (hw.session s hsession).cell status hstatus
  obtain ⟨⟨contacts, hw⟩, hresumes⟩ := hnew.resumes h
  refine ⟨hcell hw, ?_, ?_, ?_⟩
  · intro status r written hperforms hr
    obtain ⟨more, hrecords⟩ := Errand.performs_iff_records.1 hperforms
    obtain ⟨s, hsession, hstatus⟩ := status_of_writeStatus hperforms hr
    exact hcell (coherent_of_account (hw.perform hrecords id)) s status hsession hstatus
  · intro deed hdeed contact hcontact hresume
    obtain ⟨into, hstep, hword⟩ :=
      Option.map_eq_some_iff.1 (hresumes deed hdeed contact hcontact hresume)
    refine ⟨into, hstep, hword.symm.trans ?_⟩
    cases into <;> rfl
  · rintro before opening during later rfl hopening hopens
    obtain ⟨begun, -, hsession⟩ := h.of_append
    obtain ⟨ended, hsession, -⟩ := hsession.of_append
    have hkept := (coherent_of_chronicle hsession hopening hopens).kept
    exact ⟨by simpa using hkept.varied, by simpa using hkept.once⟩

/-- A session in which a status is written twice, a step into a procedure and one over it. -/
theorem status_cell_steps :
    let w : World := (.new .standard, .sample [0x2100, 0x2200, 0x2300])
    let errands : List Errand :=
      [.startDebug (.ok .sample), .writeStatus .breakpoints, .step true, .waitForHalt,
        .handle .stepOver, .writeStatus .disabled]
    (statuses (acknowledged (w.chronicle errands).1) = [[1], [3], [1], [0]] ∧
      ((acknowledged (w.chronicle errands).1).filter fun contact =>
        contact.request = .resume).map (·.link.status) = [3, 1]) ∧
    (∀ s status, (w.chronicle errands).2.1.session = some s → s.status = some status →
      (w.chronicle errands).2.2.status = status.word) ∧
    (statuses (acknowledged (w.chronicle errands).1)).IsChain (· ≠ ·) ∧
      (acknowledged (w.chronicle errands).1).countP tellsGlobals ≤ 1 := by
  intro w errands
  have hall := status_cell_coherent (w.chronicle_spec errands)
  refine ⟨by decide +kernel, hall.1, ?_⟩
  have hsession := hall.2.2.2 [] _ (w.chronicle errands).1.tail [] (List.append_nil _).symm trivial
  exact hsession (by simp [errands, chronicle, Errand.Opens])

end World

end BoardDebug
