import BoardDebug.Proofs.Call.Triple
import BoardDebug.Proofs.Session.Errands
import Mathlib.Data.List.Chain

namespace BoardDebug

open Call Routine

namespace SimulatedDevice

/-- Memory after a request that is acknowledged. -/
def memoryAfter (d : SimulatedDevice) : Request → Memory
  | .writeWords address words => d.memory.writeWords address words
  | .flash _ => d.memory.write d.globalsAddress DebugStatus.disabled.word
  | _ => d.memory

theorem serve_eq (d : SimulatedDevice) (request : Request) :
    (∃ e, (d.serve request).answer = .error e ∧ (d.serve request).link.memory = d.memory ∧
      (d.serve request).link.globalsAddress = d.globalsAddress) ∨
    d.serve request = (d.note request).answer request := by
  unfold serve note
  split
  · exact .inl ⟨_, rfl, rfl, rfl⟩
  · dsimp only
    split
    · exact .inl ⟨_, rfl, rfl, rfl⟩
    · exact .inr rfl

/-- Memory changes only by words that are written, and by an image. The status cell stays where it
is. -/
theorem frame_answer (d : SimulatedDevice) (request : Request) :
    (d.answer request).link.memory = d.memoryAfter request ∧
      (d.answer request).link.globalsAddress = d.globalsAddress := by
  cases request with
  | talk opcode payload =>
    unfold answer
    dsimp only
    split
    · exact ⟨rfl, rfl⟩
    split
    · cases BoardDebug.readWords payload <;> exact ⟨rfl, rfl⟩
    split
    · exact ⟨rfl, rfl⟩
    · exact ⟨rfl, rfl⟩
  | readWords address count => exact ⟨rfl, rfl⟩
  | writeWords address words => exact ⟨rfl, rfl⟩
  | flash image => exact ⟨rfl, rfl⟩
  | queryHalt => exact ⟨rfl, rfl⟩

theorem globalsAddress_serve (d : SimulatedDevice) (request : Request) :
    (d.serve request).link.globalsAddress = d.globalsAddress := by
  obtain ⟨_, -, -, h⟩ | h := d.serve_eq request
  · exact h
  · rw [h, ((d.note request).frame_answer request).2]
    rfl

theorem memory_serve_of_ok {d : SimulatedDevice} {request : Request} {reply : request.Reply}
    (h : (d.serve request).answer = .ok reply) :
    (d.serve request).link.memory = d.memoryAfter request := by
  obtain ⟨_, herror, -, -⟩ | hserve := d.serve_eq request
  · rw [herror] at h
    cases h
  · rw [hserve, ((d.note request).frame_answer request).1]
    cases request <;> rfl

theorem memory_serve_of_error {d : SimulatedDevice} {request : Request} {e : LinkError}
    (h : (d.serve request).answer = .error e) : (d.serve request).link.memory = d.memory := by
  obtain ⟨_, -, hmemory, -⟩ | hserve := d.serve_eq request
  · exact hmemory
  · rw [hserve] at h
    rw [hserve, ((d.note request).frame_answer request).1]
    cases request with
    | writeWords address words => cases h
    | flash image => cases h
    | talk opcode payload => rfl
    | readWords address count => rfl
    | queryHalt => rfl

theorem serve_getGlobals {d : SimulatedDevice}
    {reply : (Request.talk Opcode.getGlobals []).Reply}
    (h : (d.serve (.talk Opcode.getGlobals [])).answer = .ok reply) :
    GlobalsArea.ofReply reply = .ok d.area ∧
      (d.serve (.talk Opcode.getGlobals [])).link.area = d.area := by
  obtain ⟨_, herror, -, -⟩ | hserve := d.serve_eq (.talk Opcode.getGlobals [])
  · rw [herror] at h
    cases h
  · rw [hserve] at h ⊢
    cases h
    exact ⟨GlobalsArea.ofReply_eq_ok_iff.2 (List.prefix_refl _), rfl⟩

end SimulatedDevice

namespace Contact

/-- The device has told where its globals are. -/
def tellsGlobals (contact : Contact SimulatedDevice) : Bool :=
  contact.request.kind = .talk Opcode.getGlobals

/-- The device has gone on. -/
def Resumes (contact : Contact SimulatedDevice) : Prop :=
  contact.request.kind = .talk Opcode.resume

/-- What was written to the status cell. -/
def status? (contact : Contact SimulatedDevice) : Option (List UInt32) :=
  match contact.request with
  | .writeWords address words => if address = contact.link.globalsAddress then some words else none
  | _ => none

/-- All that was written to the status cell. -/
def statuses (contacts : List (Contact SimulatedDevice)) : List (List UInt32) :=
  contacts.filterMap status?

theorem statuses_concat (contacts : List (Contact SimulatedDevice))
    (contact : Contact SimulatedDevice) :
    statuses (contacts ++ [contact]) = statuses contacts ++ contact.status?.toList := by
  simp [statuses, List.filterMap_append, List.filterMap_cons]
  cases contact.status? <;> rfl

end Contact

open Contact

theorem DebugStatus.word_injective : Function.Injective word := by
  intro a b h
  cases a <;> cases b <;> first | rfl | cases h

/-- An account since the beginning of a session, the calls before the present one being `earlier`.
The device goes on only with what is `allowed` in its status cell. -/
structure IsKept (allowed : Option UInt32) (earlier : List (Contact SimulatedDevice))
    (l : Ledger SimulatedDevice) : Prop where
  varied : (statuses (earlier ++ l.account)).IsChain (· ≠ ·)
  once : (earlier ++ l.account).countP tellsGlobals ≤ 1
  resumed : ∀ contact ∈ l.account, contact.Resumes → allowed = some contact.link.status

namespace Session

/-- What a session takes to be in its status cell is there. -/
structure Coherent (allowed : Option UInt32) (earlier : List (Contact SimulatedDevice))
    (s : Session) (l : Ledger SimulatedDevice) : Prop extends IsKept allowed earlier l where
  area : ∀ area ∈ s.area, area.address = l.link.globalsAddress
  unasked : s.area = none → (earlier ++ l.account).countP tellsGlobals = 0
  cell : ∀ status ∈ s.status, l.link.status = status.word
  last : (statuses (earlier ++ l.account)).getLast? = s.status.map fun status => [status.word]

variable {allowed : Option UInt32} {earlier : List (Contact SimulatedDevice)} {s s' : Session}
  {l l' : Ledger SimulatedDevice} {listening : Bool} {request : Request}
  {known : Option DebugStatus}

theorem Coherent.congr (h : s.Coherent allowed earlier l) (harea : s'.area = s.area)
    (hstatus : s'.status = s.status) : s'.Coherent allowed earlier l where
  toIsKept := h.toIsKept
  area := harea ▸ h.area
  unasked := harea ▸ h.unasked
  cell := hstatus ▸ h.cell
  last := hstatus ▸ h.last

theorem area_foldl_notify (listening : Bool) (events : List Event) (s : Session) :
    (events.foldl (fun s e => notify listening e s) s).area = s.area ∧
      (events.foldl (fun s e => notify listening e s) s).status = s.status := by
  induction events generalizing s with
  | nil => exact ⟨rfl, rfl⟩
  | cons event events ih =>
    obtain ⟨harea, hstatus⟩ := ih (notify listening event s)
    have hdrift := s.drift_notify listening event
    rw [List.foldl_cons, harea, hstatus]
    generalize notify listening event s = s' at hdrift ⊢
    obtain ⟨latch, observer, -, -⟩ := hdrift
    exact ⟨rfl, rfl⟩

/-- What a session hears changes nothing of what it takes the device for. -/
theorem Coherent.heard (h : s.Coherent allowed earlier l) (events : List Event) :
    (events.foldl (fun s e => notify listening e s) s).Coherent allowed earlier l := by
  obtain ⟨harea, hstatus⟩ := area_foldl_notify listening events s
  exact h.congr harea hstatus

/-- Nothing was acknowledged, and the status cell is as it was. -/
theorem Coherent.transfer (h : s.Coherent allowed earlier l) (haccount : l'.account = l.account)
    (hcell : l'.link.globalsAddress = l.link.globalsAddress)
    (hmemory : l'.link.memory = l.link.memory) : s.Coherent allowed earlier l' := by
  have hstatus : l'.link.status = l.link.status := by
    rw [SimulatedDevice.status, SimulatedDevice.status, hmemory, hcell]
  exact
    { varied := haccount ▸ h.varied
      once := haccount ▸ h.once
      resumed := haccount ▸ h.resumed
      area := hcell ▸ h.area
      unasked := haccount ▸ h.unasked
      cell := hstatus ▸ h.cell
      last := haccount ▸ h.last }

theorem Coherent.happens (h : s.Coherent allowed earlier l)
    (hhappens : Ledger.Happens Stirs (s, l) (s', l')) : s'.Coherent allowed earlier l' := by
  obtain ⟨⟨hdrift, -, hmemory, -, hcell⟩, haccount⟩ := hhappens
  have hcoherent := h.transfer haccount hcell hmemory
  dsimp only at hdrift
  obtain ⟨latch, observer, -, -⟩ := hdrift
  exact hcoherent.congr rfl rfl

theorem Coherent.serve_of_error (h : s.Coherent allowed earlier l) {e : LinkError}
    (hanswer : (Link.serve l request).answer = .error e) :
    s.Coherent allowed earlier (Link.serve l request).link :=
  h.transfer (Ledger.account_serve_of_error hanswer) (l.link.globalsAddress_serve request)
    (SimulatedDevice.memory_serve_of_error hanswer)

/-- A session that has learnt of the globals area, or written its status, by a request. -/
structure Learns (s s' : Session) (contact : Contact SimulatedDevice) : Prop where
  area : s'.area = none → s.area = none ∧ contact.tellsGlobals = false
  tells : contact.tellsGlobals → s.area = none
  kept : contact.status? = none → s'.status = s.status
  written : ∀ words ∈ contact.status?, ∃ status, words = [status.word] ∧
    s'.status = some status ∧ s.status ≠ some status

/-- A request was acknowledged, and what the session has learnt by it is right. -/
theorem Coherent.enter (h : s.Coherent allowed earlier l) {contact : Contact SimulatedDevice}
    (hlearns : s.Learns s' contact) (haccount : l'.account = l.account ++ [contact])
    (hresumes : contact.Resumes → allowed = some contact.link.status)
    (harea : ∀ area ∈ s'.area, area.address = l'.link.globalsAddress)
    (hcell : ∀ status ∈ s'.status, l'.link.status = status.word) :
    s'.Coherent allowed earlier l' := by
  have hstatuses : statuses (earlier ++ l'.account) =
      statuses (earlier ++ l.account) ++ contact.status?.toList := by
    rw [haccount, ← List.append_assoc, statuses_concat]
  have hcount : (earlier ++ l'.account).countP tellsGlobals =
      (earlier ++ l.account).countP tellsGlobals + if contact.tellsGlobals then 1 else 0 := by
    rw [haccount, ← List.append_assoc, List.countP_append, List.countP_singleton]
  refine
    { varied := ?varied
      once := ?once
      resumed := ?resumed
      area := harea
      unasked := ?unasked
      cell := hcell
      last := ?last }
  case varied =>
    rw [hstatuses, List.isChain_append]
    refine ⟨h.varied, ?_, fun words hwords words' hwords' => ?_⟩
    · cases contact.status? with
      | none => exact .nil
      | some words => exact .singleton words
    · -- What was written before is the status that the session knew until now.
      have hwritten : words' ∈ contact.status? := by
        cases hstatus : contact.status? <;> simp_all
      obtain ⟨status, rfl, -, hne⟩ := hlearns.written words' hwritten
      rw [h.last] at hwords
      obtain ⟨earlier, hearlier, rfl⟩ := Option.map_eq_some_iff.1 hwords
      rintro hsame
      obtain rfl := DebugStatus.word_injective (List.singleton_inj.1 hsame)
      exact hne hearlier
  case once =>
    rw [hcount]
    split
    case isTrue htells =>
      rw [h.unasked (hlearns.tells htells)]
    case isFalse => exact h.once
  case resumed =>
    rw [haccount]
    exact List.forall_mem_append.2 ⟨h.resumed, by simpa using hresumes⟩
  case unasked =>
    intro hnone
    obtain ⟨hbefore, htells⟩ := hlearns.area hnone
    rw [hcount, h.unasked hbefore, htells]
    rfl
  case last =>
    rw [hstatuses]
    cases hstatus : contact.status? with
    | none => simpa [hlearns.kept hstatus] using h.last
    | some words =>
      obtain ⟨status, rfl, hnow, -⟩ := hlearns.written words hstatus
      simp [hnow]

theorem Coherent.serve_of_ok (h : s.Coherent allowed earlier l) {reply : request.Reply}
    (hanswer : (Link.serve l request).answer = .ok reply)
    (hlearns : s.Learns s' ⟨l.link, request⟩)
    (hresumes : request.kind = .talk Opcode.resume → allowed = some l.link.status)
    (harea : ∀ area ∈ s'.area, area.address = l.link.globalsAddress)
    (hcell : ∀ status ∈ s'.status,
      (l.link.memoryAfter request).read l.link.globalsAddress = status.word) :
    s'.Coherent allowed earlier (Link.serve l request).link := by
  have hplace : (Link.serve l request).link.link.globalsAddress = l.link.globalsAddress :=
    l.link.globalsAddress_serve request
  have hmemory : (Link.serve l request).link.link.memory = l.link.memoryAfter request :=
    SimulatedDevice.memory_serve_of_ok hanswer
  refine h.enter hlearns (Ledger.account_serve_of_ok hanswer) hresumes (hplace ▸ harea) ?_
  intro status hstatus
  rw [SimulatedDevice.status, hplace, hmemory]
  exact hcell status hstatus

/-! What the routines make of a session that knows its status cell. -/

/-- A request whose acknowledgement brings about `ok`, as far as the session is concerned by what it
knows of the device. -/
theorem triple_request {before : Session → Ledger SimulatedDevice → Prop}
    {ok : request.Reply → Session → Ledger SimulatedDevice → Prop}
    (hbefore : ∀ s l, before s l → s.Coherent allowed earlier l)
    (hok : ∀ s l reply, before s l → (Link.serve l request).answer = .ok reply →
      ok reply s (Link.serve l request).link)
    (hheard : ∀ reply s s' l, s'.area = s.area → s'.status = s.status → ok reply s l →
      ok reply s' l) :
    Triple (notify listening) (Ledger.Happens Stirs) before (ask request) ok
      (Coherent allowed earlier) := by
  refine triple_ask fun s l h => ?_
  cases hanswer : (Link.serve l request).answer with
  | ok reply =>
    obtain ⟨harea, hstatus⟩ := area_foldl_notify listening (Link.serve l request).events s
    exact hheard reply s _ _ harea hstatus (hok s l reply h hanswer)
  | error e => exact ((hbefore s l h).serve_of_error hanswer).heard _

/-- A request that does not concern the status cell, and does not let the device go on. -/
structure IsPlain (request : Request) : Prop where
  kind : request.kind ≠ .talk Opcode.getGlobals ∧ request.kind ≠ .talk Opcode.resume
  memory : ∀ d : SimulatedDevice, d.memoryAfter request = d.memory
  status : ∀ d : SimulatedDevice, (Contact.mk d request).status? = none

theorem Learns.of_quiet {contact : Contact SimulatedDevice} (htells : contact.tellsGlobals = false)
    (hstatus : contact.status? = none) (s : Session) : s.Learns s contact where
  area hnone := ⟨hnone, htells⟩
  tells h := by simp [htells] at h
  kept _ := rfl
  written := by simp [hstatus]

theorem triple_plain (hplain : IsPlain request) :
    Triple (notify listening) (Ledger.Happens Stirs)
      (fun s l => s.Coherent allowed earlier l ∧ s.status = known) (ask request)
      (fun _ s l => s.Coherent allowed earlier l ∧ s.status = known)
      (Coherent allowed earlier) := by
  refine triple_request (fun s l h => h.1) ?_ ?_
  · rintro s l reply ⟨h, hknown⟩ hanswer
    have htells : Contact.tellsGlobals ⟨l.link, request⟩ = false := by
      simp [tellsGlobals, hplain.kind.1]
    refine ⟨h.serve_of_ok hanswer (.of_quiet htells (hplain.status l.link) s)
      (fun hresume => absurd hresume hplain.kind.2) h.area ?_, hknown⟩
    rw [hplain.memory]
    exact h.cell
  · rintro reply s s' l harea hstatus ⟨h, hknown⟩
    exact ⟨h.congr harea hstatus, hstatus.trans hknown⟩

theorem isPlain_setBreakpoints (addresses : List UInt32) : IsPlain (.setBreakpoints addresses) :=
  ⟨by simp [Request.setBreakpoints, Request.kind]; decide, fun _ => rfl, fun _ => rfl⟩

theorem isPlain_readWords (address count : UInt32) : IsPlain (.readWords address count) :=
  ⟨⟨nofun, nofun⟩, fun _ => rfl, fun _ => rfl⟩

theorem triple_modify_coherent {f : Session → Session}
    (hf : ∀ s, (f s).area = s.area ∧ (f s).status = s.status) :
    Triple (notify listening) (Ledger.Happens Stirs)
      (fun s l => s.Coherent allowed earlier l ∧ s.status = known) (modify f)
      (fun _ s l => s.Coherent allowed earlier l ∧ s.status = known) (Coherent allowed earlier) :=
  triple_modify fun s _ ⟨h, hknown⟩ => ⟨h.congr (hf s).1 (hf s).2, (hf s).2.trans hknown⟩

/-- The device answers where its globals are. -/
theorem triple_fetch (known : Option DebugStatus) :
    Triple (notify listening) (Ledger.Happens Stirs)
      (fun s l => s.Coherent allowed earlier l ∧ s.status = known ∧ s.area = none)
      GlobalsArea.fetch
      (fun area s l => ({ s with area := some area } : Session).Coherent allowed earlier l ∧
        s.status = known ∧ area.address = l.link.globalsAddress)
      (Coherent allowed earlier) := by
  have hask : Triple (notify listening) (Ledger.Happens Stirs)
      (fun s l => s.Coherent allowed earlier l ∧ s.status = known ∧ s.area = none)
      (ask (.talk Opcode.getGlobals []))
      (fun reply s l => GlobalsArea.ofReply reply = .ok l.link.area ∧
        ({ s with area := some l.link.area } : Session).Coherent allowed earlier l ∧
        s.status = known)
      (Coherent allowed earlier) := by
    refine triple_request (fun s l h => h.1) ?_ ?_
    · rintro s l reply ⟨h, hknown, hnone⟩ hanswer
      have hserve := SimulatedDevice.serve_getGlobals hanswer
      have hlearns : s.Learns { s with area := some l.link.area }
          ⟨l.link, .talk Opcode.getGlobals []⟩ :=
        ⟨nofun, fun _ => hnone, fun _ => rfl, nofun⟩
      refine ⟨hserve.1.trans (congrArg _ hserve.2.symm), ?_, hknown⟩
      have harea : (Link.serve l (.talk Opcode.getGlobals [])).link.link.area = l.link.area :=
        hserve.2
      rw [harea]
      refine h.serve_of_ok hanswer hlearns ?_ ?_ h.cell
      · exact fun hresume => absurd hresume (by decide)
      · rintro area ⟨⟩
        rfl
    · rintro reply s s' l - hstatus ⟨hreply, h, hknown⟩
      exact ⟨hreply, h.congr rfl hstatus, hstatus.trans hknown⟩
  unfold GlobalsArea.fetch
  refine triple_bind hask fun reply => ?_
  cases hread : GlobalsArea.ofReply reply with
  | ok area =>
    refine triple_pure ?_
    rintro s l ⟨⟨⟩, h, hknown⟩
    exact ⟨h, hknown, rfl⟩
  | error what =>
    refine triple_fail ?_
    rintro s l ⟨⟨⟩, -⟩

theorem triple_fetchArea (known : Option DebugStatus) :
    Triple (notify listening) (Ledger.Happens Stirs)
      (fun s l => s.Coherent allowed earlier l ∧ s.status = known) fetchArea
      (fun area s l => s.Coherent allowed earlier l ∧ s.status = known ∧
        area.address = l.link.globalsAddress)
      (Coherent allowed earlier) := by
  unfold fetchArea
  refine triple_get_bind fun before => ?_
  cases harea : before.area with
  | some area =>
    refine triple_pure ?_
    rintro s l ⟨rfl, h, hknown⟩
    exact ⟨h, hknown, h.area area harea⟩
  | none =>
    refine triple_bind ((triple_fetch known).under ?_) fun area => ?_
    · rintro s l ⟨rfl, h, hknown⟩
      exact ⟨h, hknown, harea⟩
    · exact triple_bind (triple_modify fun _ _ h => h) fun _ => triple_pure fun _ _ h => h

theorem triple_writeStatus (status : DebugStatus) :
    Triple (notify listening) (Ledger.Happens Stirs) (Coherent allowed earlier) (writeStatus status)
      (fun _ s l => s.Coherent allowed earlier l ∧ s.status = some status)
      (Coherent allowed earlier) := by
  unfold writeStatus
  refine triple_get_bind fun before => ?_
  split
  case isTrue hsame =>
    refine triple_pure ?_
    rintro s l ⟨rfl, h⟩
    exact ⟨h, hsame⟩
  case isFalse hother =>
    refine triple_bind ((triple_fetchArea before.status).under ?_) fun area => ?_
    · rintro s l ⟨rfl, h⟩
      exact ⟨h, rfl⟩
    have hwrite : Triple (notify listening) (Ledger.Happens Stirs)
        (fun s l => s.Coherent allowed earlier l ∧ s.status = before.status ∧
          area.address = l.link.globalsAddress)
        (ask (.writeWords area.address [status.word]))
        (fun _ s l => ({ s with status := some status } : Session).Coherent allowed earlier l)
        (Coherent allowed earlier) := by
      refine triple_request (fun s l h => h.1) ?_ ?_
      · rintro s l reply ⟨h, hknown, hplace⟩ hanswer
        have hstatus : Contact.status? ⟨l.link, .writeWords area.address [status.word]⟩ =
            some [status.word] := if_pos hplace
        have hlearns : s.Learns { s with status := some status }
            ⟨l.link, .writeWords area.address [status.word]⟩ := by
          refine ⟨fun hnone => ⟨hnone, rfl⟩, nofun, fun hnone => ?_, fun words hwords => ?_⟩
          · simp [hstatus] at hnone
          · rw [hstatus] at hwords
            cases hwords
            exact ⟨status, rfl, rfl, hknown ▸ hother⟩
        refine h.serve_of_ok hanswer hlearns nofun h.area ?_
        rintro status' ⟨⟩
        simp [SimulatedDevice.memoryAfter, Memory.writeWords, Memory.read_write, hplace]
      · exact fun reply s s' l harea _ h => h.congr harea rfl
    refine triple_bind hwrite fun _ => ?_
    exact triple_bind (triple_modify fun _ _ h => ⟨h, rfl⟩) fun _ => triple_pure fun _ _ h => h

/-- An image clears the status cell, of which a session knows nothing as long as it has not written
it. -/
theorem triple_flash (image : Image) :
    Triple (notify listening) (Ledger.Happens Stirs)
      (fun s l => s.Coherent allowed earlier l ∧ s.status = none) (ask (.flash image))
      (fun _ s l => s.Coherent allowed earlier l ∧ s.status = none) (Coherent allowed earlier) := by
  refine triple_request (fun s l h => h.1) ?_ ?_
  · rintro s l reply ⟨h, hnone⟩ hanswer
    exact ⟨h.serve_of_ok hanswer (.of_quiet rfl rfl s) nofun h.area (by simp [hnone]), hnone⟩
  · rintro reply s s' l harea hstatus ⟨h, hnone⟩
    exact ⟨h.congr harea hstatus, hstatus.trans hnone⟩

/-- The device goes on with the status that the session has written. -/
theorem triple_resume (status : DebugStatus) (hallowed : allowed = some status.word) :
    Triple (notify listening) (Ledger.Happens Stirs)
      (fun s l => s.Coherent allowed earlier l ∧ s.status = some status) (ask .resume)
      (fun _ s l => s.Coherent allowed earlier l ∧ s.status = some status)
      (Coherent allowed earlier) := by
  refine triple_request (fun s l h => h.1) ?_ ?_
  · rintro s l reply ⟨h, hknown⟩ hanswer
    have hcell := h.cell status hknown
    exact ⟨h.serve_of_ok hanswer (.of_quiet rfl rfl s) (fun _ => hcell ▸ hallowed) h.area h.cell,
      hknown⟩
  · rintro reply s s' l harea hstatus ⟨h, hknown⟩
    exact ⟨h.congr harea hstatus, hstatus.trans hknown⟩

theorem area_arm (s : Session) : s.arm.area = s.area ∧ s.arm.status = s.status := by
  unfold arm dropWait
  cases s.wait <;> exact ⟨rfl, rfl⟩

theorem triple_flashAndArm :
    Triple (notify listening) (Ledger.Happens Stirs)
      (fun s l => s.Coherent allowed earlier l ∧ s.status = none) flashAndArm
      (fun _ => Coherent allowed earlier) (Coherent allowed earlier) := by
  unfold flashAndArm
  refine triple_get fun before => ?_
  cases before.table.entry? with
  | none => exact triple_fail fun s l h => h.1
  | some entry =>
    refine triple_bind (triple_modify_coherent fun _ => ⟨rfl, rfl⟩) fun _ => ?_
    refine triple_bind (triple_plain (isPlain_setBreakpoints _)) fun _ => ?_
    refine triple_bind (triple_modify_coherent fun s => s.area_arm) fun _ => ?_
    refine triple_get fun current => ?_
    refine triple_bind (triple_flash _) fun _ => ?_
    exact triple_modify fun s l h => h.1.congr rfl rfl

theorem triple_take (area : GlobalsArea) (index : ProcedureIndex) (pc : Option UInt32) :
    Triple (notify listening) (Ledger.Happens Stirs)
      (fun s l => s.Coherent allowed earlier l ∧ s.status = known) (Snapshot.take area index pc)
      (fun _ s l => s.Coherent allowed earlier l ∧ s.status = known)
      (Coherent allowed earlier) := by
  unfold Snapshot.take
  refine triple_bind (triple_plain (isPlain_readWords _ _)) fun words => ?_
  split
  · exact triple_pure fun _ _ h => h
  · exact triple_fail fun _ _ h => h.1

/-- What leaves the status alone that a session knows is in order whatever that is. -/
theorem triple_of_forall {α : Type} {r : Routine Session α}
    (h : ∀ known, Triple (notify listening) (Ledger.Happens Stirs)
      (fun s l => s.Coherent allowed earlier l ∧ s.status = known) r
      (fun _ s l => s.Coherent allowed earlier l ∧ s.status = known) (Coherent allowed earlier)) :
    Triple (notify listening) (Ledger.Happens Stirs) (Coherent allowed earlier) r
      (fun _ => Coherent allowed earlier) (Coherent allowed earlier) := by
  intro s l run hcoherent houtcome
  exact (h s.status).mono (fun _ _ h => h) (fun _ _ _ h => h.1) (fun _ _ h => h) s l run
    ⟨hcoherent, rfl⟩ houtcome

theorem triple_change {f : Session → Session}
    (hf : ∀ s, (f s).area = s.area ∧ (f s).status = s.status) :
    Triple (notify listening) (Ledger.Happens Stirs) (Coherent allowed earlier) (modify f)
      (fun _ => Coherent allowed earlier) (Coherent allowed earlier) :=
  triple_of_forall fun _ => triple_modify_coherent hf

theorem triple_halted (pc : UInt32) :
    Triple (notify listening) (Ledger.Happens Stirs) (Coherent allowed earlier) (halted pc)
      (fun _ => Coherent allowed earlier) (Coherent allowed earlier) := by
  have hfetch : Triple (notify listening) (Ledger.Happens Stirs) (Coherent allowed earlier)
      fetchArea (fun _ => Coherent allowed earlier) (Coherent allowed earlier) :=
    triple_of_forall fun known => (triple_fetchArea known).mono (fun _ _ h => h)
      (fun _ _ _ h => ⟨h.1, h.2.1⟩) fun _ _ h => h
  unfold halted
  refine triple_bind hfetch fun area => triple_get fun s => ?_
  refine triple_bind (triple_of_forall fun _ => triple_take _ _ _) fun snapshot => ?_
  refine triple_bind (triple_change fun _ => ⟨rfl, rfl⟩) fun _ => ?_
  split
  case isTrue =>
    refine triple_bind ((triple_writeStatus _).mono (fun _ _ h => h) (fun _ _ _ h => h.1)
      fun _ _ h => h) fun _ => ?_
    exact triple_bind (triple_change fun _ => ⟨rfl, rfl⟩) fun _ => triple_pure fun _ _ h => h
  case isFalse =>
    exact triple_bind (triple_change fun _ => ⟨rfl, rfl⟩) fun _ => triple_pure fun _ _ h => h

theorem triple_expectPhase (phase : Phase) :
    Triple (notify listening) (Ledger.Happens Stirs) (Coherent allowed earlier) (expectPhase phase)
      (fun _ => Coherent allowed earlier) (Coherent allowed earlier) := by
  unfold expectPhase
  refine triple_get fun s => ?_
  split
  · exact triple_pure fun _ _ h => h
  · exact triple_fail fun _ _ h => h

theorem triple_waitForHalt :
    Triple (notify listening) (Ledger.Happens Stirs) (Coherent allowed earlier) waitForHalt
      (fun _ => Coherent allowed earlier) (Coherent allowed earlier) := by
  unfold waitForHalt
  refine triple_bind (triple_expectPhase _) fun _ => ?_
  refine triple_bind (triple_await (fun _ _ _ _ h => h.happens) (fun _ _ _ h => h)
    fun _ _ h => h) fun outcome => ?_
  have hdrop (s : Session) : s.dropWait.area = s.area ∧ s.dropWait.status = s.status := by
    rw [dropWait_eq]
    exact ⟨rfl, rfl⟩
  refine triple_bind (triple_change hdrop) fun _ => ?_
  cases outcome with
  | halted pc => exact triple_halted pc
  | failed e => exact triple_fail fun _ _ h => h
  | superseded => exact triple_fail fun _ _ h => h

theorem triple_step (into : Bool) (hallowed : allowed = some (stepStatus into).word) :
    Triple (notify listening) (Ledger.Happens Stirs) (Coherent allowed earlier) (step into)
      (fun _ => Coherent allowed earlier) (Coherent allowed earlier) := by
  unfold step
  refine triple_bind (triple_expectPhase _) fun _ => triple_get fun s => ?_
  cases s.current with
  | none => exact triple_fail fun _ _ h => h
  | some current =>
    refine triple_bind (triple_change fun _ => ⟨rfl, rfl⟩) fun _ => ?_
    refine triple_bind (triple_of_forall fun _ => triple_plain (isPlain_setBreakpoints _))
      fun _ => ?_
    refine triple_bind (triple_writeStatus (stepStatus into)) fun _ => ?_
    refine triple_bind (triple_modify_coherent fun s => s.area_arm) fun _ => ?_
    refine triple_bind (triple_resume (stepStatus into) hallowed) fun _ => ?_
    exact triple_modify fun _ _ h => h.1.congr rfl rfl

end Session

end BoardDebug
