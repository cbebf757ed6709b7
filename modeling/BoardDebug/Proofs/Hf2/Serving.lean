import BoardDebug.Proofs.Device.Requests
import BoardDebug.Proofs.Hf2.Board

namespace BoardDebug

namespace Hf2

/-- What a machine says of itself. -/
def Machine.info (m : Machine) : BinInfo :=
  ⟨.ofWord m.mode, m.pageSize, m.pageCount, m.maxMessageSize, m.family⟩

/-- A machine that one talks to without a bus, with the halts that nobody was told of. -/
structure Bare where
  machine : Machine
  untold : List UInt32

namespace Bare

/-- It is reset only while it does not run its application: what it says then could be cut off. -/
instance : Channel Bare where
  ask b command payload :=
    match b.machine.serve command payload with
    | some effect => (.ok effect.reply, ⟨effect.machine, b.untold ++ effect.halts⟩)
    | none => (.error (.timeout command), b)
  tell b command :=
    match b.machine.runs, b.machine.serve command [] with
    | false, none => (.ok (), ⟨b.machine.order command, b.untold⟩)
    | _, _ => (.error .closed, b)
  reopen b :=
    if b.machine.runs then (.error .closed, b)
    else (.ok (), ⟨b.machine.opened, b.untold ++ b.machine.openedHalts⟩)

end Bare

end Hf2

open Hf2

/-- Whatever goes well without a bus goes well on a link. -/
theorem Hf2Link.Tuned.run {α β : Type} [UsbBus β] {options : Options} {view : β → Board}
    (hboard : IsBoard options view) {dialogue : Dialogue α} {link : Hf2Link β} {b b' : Bare} {a : α}
    (h : link.Tuned options view .free b.machine b.untold)
    (hrun : dialogue.run b = (.ok a, b')) :
    ∃ link', dialogue.run link = (.ok a, link') ∧
      link'.Tuned options view .free b'.machine b'.untold := by
  induction dialogue generalizing link b with
  | done result =>
    cases hrun
    exact ⟨link, rfl, h⟩
  | ask command payload next ih =>
    cases hserve : b.machine.serve command payload with
    | none => simp [Dialogue.run, Channel.ask, hserve] at hrun
    | some effect =>
      simp only [Dialogue.run, Channel.ask, hserve] at hrun
      obtain ⟨link', hask, htuned⟩ := h.ask hboard hserve
      obtain ⟨last, hlast⟩ := ih effect.reply (b := ⟨_, _⟩) htuned hrun
      refine ⟨last, ?_, hlast.2⟩
      -- Asking a link is the `ask` of its channel, under another name.
      have hask' : Channel.ask link command payload = (.ok effect.reply, link') := hask
      simp only [Dialogue.run, hask']
      exact hlast.1
  | tell command next ih =>
    cases hruns : b.machine.runs with
    | true => simp [Dialogue.run, Channel.tell, hruns] at hrun
    | false =>
      cases hserve : b.machine.serve command [] with
      | some effect => simp [Dialogue.run, Channel.tell, hruns, hserve] at hrun
      | none =>
        simp only [Dialogue.run, Channel.tell, hruns, hserve] at hrun
        obtain ⟨link', htell, htuned⟩ := h.tell hboard hruns hserve
        obtain ⟨last, hlast⟩ := ih (b := ⟨_, _⟩) htuned hrun
        refine ⟨last, ?_, hlast.2⟩
        have htell' : Channel.tell link command = (.ok (), link') := htell
        simp only [Dialogue.run, htell']
        exact hlast.1
  | reopen next ih =>
    cases hruns : b.machine.runs with
    | true => simp [Dialogue.run, Channel.reopen, hruns] at hrun
    | false =>
      simp only [Dialogue.run, Channel.reopen, hruns] at hrun
      obtain ⟨link', hreopen, htuned⟩ := h.reopen hboard hruns
      obtain ⟨last, hlast⟩ := ih (b := ⟨_, _⟩) htuned hrun
      refine ⟨last, ?_, hlast.2⟩
      have hreopen' : Channel.reopen link = (.ok (), link') := hreopen
      simp only [Dialogue.run, hreopen']
      exact hlast.1

namespace Hf2.Dialogue

variable {α β : Type} {b b' : Bare} {a : α}

theorem run_bind_of_ok {dialogue : Dialogue α} (h : dialogue.run b = (.ok a, b'))
    (f : α → Dialogue β) : (dialogue >>= f).run b = (f a).run b' := by
  rw [run_bind, h]

theorem run_request {command : UInt32} {payload : Bytes} {effect : Effect}
    (h : b.machine.serve command payload = some effect) :
    (request command payload).run b =
      (.ok effect.reply, ⟨effect.machine, b.untold ++ effect.halts⟩) := by
  simp only [request, run, Channel.ask, h]

theorem run_request_of_quiet {command : UInt32} {payload reply : Bytes}
    (h : b.machine.serve command payload = some ⟨reply, b.machine, []⟩) :
    (request command payload).run b = (.ok reply, b) := by
  rw [run_request h, List.append_nil]

theorem toNat_ofNat_of_le {count : Nat} (h : count ≤ maxWords) :
    (UInt32.ofNat count).toNat = count := by
  have hlt : count < 2 ^ 32 := Nat.lt_of_le_of_lt h (by decide)
  rw [UInt32.toNat_ofNat', Nat.mod_eq_of_lt hlt]

theorem serve_writeWords (m : Machine) (address : UInt32) {words : List UInt32}
    (h : words.length ≤ maxWords) :
    m.serve Command.writeWords (wordBytes [address, .ofNat words.length] ++ wordBytes words) =
      some ⟨[], { m with memory := m.memory.writeWords address words }, []⟩ := by
  have hpayload : wordBytes [address, .ofNat words.length] ++ wordBytes words =
      wordBytes (address :: .ofNat words.length :: words) := by
    simp [wordBytes]
  have hcount := toNat_ofNat_of_le h
  rw [hpayload]
  simp [Machine.serve, Command.writeWords, Command.readWords, Command.binInfo,
    Command.writeFlashPage, hcount]

theorem serve_readWords (m : Machine) (address : UInt32) {count : Nat} (h : count ≤ maxWords) :
    m.serve Command.readWords (wordBytes [address, .ofNat count]) =
      some ⟨wordBytes (m.memory.readWords address count), m, []⟩ := by
  have hcount := toNat_ofNat_of_le h
  simp [Machine.serve, Command.readWords, Command.binInfo, Command.writeFlashPage, hcount]

theorem run_readChunk (b : Bare) (address : UInt32) {count : Nat} (h : count ≤ maxWords) :
    (readChunk address count).run b = (.ok (b.machine.memory.readWords address count), b) := by
  unfold readChunk
  rw [run_bind_of_ok (run_request_of_quiet (serve_readWords b.machine address h))]
  simp [ofRead, run_bind, run, SimulatedDevice.length_readWords]
  rfl

theorem run_readFrom (b : Bare) {commands : Nat} (address : UInt32) {count : Nat}
    (h : count ≤ maxWords * commands) :
    (readFrom commands address count).run b =
      (.ok (b.machine.memory.readWords address count), b) := by
  induction commands generalizing address count with
  | zero =>
    obtain rfl : count = 0 := by omega
    rfl
  | succ commands ih =>
    unfold readFrom
    by_cases hzero : count = 0
    · subst hzero
      rfl
    · -- One command reads as many words as fit into an answer; the others read the rest.
      have hrest : count - maxWords ≤ maxWords * commands := by
        rw [Nat.mul_succ] at h
        omega
      rw [if_neg hzero, run_bind_of_ok (run_readChunk b address (Nat.min_le_right _ _)),
        run_bind_of_ok (ih _ hrest), ← b.machine.memory.readWords_min address count maxWords]
      rfl

theorem run_readWords (b : Bare) (address : UInt32) (count : Nat) :
    (readWords address count).run b = (.ok (b.machine.memory.readWords address count), b) := by
  have hcommands : count ≤ maxWords * (count / maxWords + 1) := by
    unfold maxWords
    omega
  exact run_readFrom b address hcommands

theorem run_writePieces (b : Bare) (address : UInt32) {count : Nat} {words : List UInt32}
    (h : words.length ≤ count) :
    (writeChunks address (pieces maxWords count words)).run b =
      (.ok (), ⟨{ b.machine with memory := b.machine.memory.writeWords address words },
        b.untold⟩) := by
  induction count generalizing b address words with
  | zero =>
    obtain rfl := List.length_eq_zero_iff.1 (Nat.le_zero.1 h)
    rfl
  | succ count ih =>
    cases words with
    | nil => rfl
    | cons first rest =>
      have hpieces : pieces maxWords (count + 1) (first :: rest) =
          (first :: rest).take maxWords ::
            pieces maxWords count ((first :: rest).drop maxWords) := by
        rw [pieces]
        simp
      have hrest : ((first :: rest).drop maxWords).length ≤ count := by
        rw [List.length_drop]
        unfold maxWords
        omega
      rw [hpieces]
      -- From here on it does not matter that there is a first word.
      generalize first :: rest = words at hrest
      unfold writeChunks
      rw [run_bind_of_ok (run_request (serve_writeWords b.machine address
        (List.length_take_le maxWords words))), ih _ _ hrest]
      dsimp only
      rw [Memory.writeWords_take, List.append_nil]

theorem run_writeWords (b : Bare) (address : UInt32) (words : List UInt32) :
    (writeWords address words).run b =
      (.ok (), ⟨{ b.machine with memory := b.machine.memory.writeWords address words },
        b.untold⟩) :=
  run_writePieces b address (Nat.le_refl _)

theorem ofReply_info (m : Machine) :
    BinInfo.ofReply (wordBytes ([m.mode, m.pageSize, m.pageCount, m.maxMessageSize] ++
      m.family.toList)) = .ok m.info := by
  simp only [BinInfo.ofReply, wordAt_wordBytes, Machine.info]
  cases m.family <;> rfl

theorem run_binInfo_bare (b : Bare) : binInfo.run b = (.ok b.machine.info, b) := by
  have hserve : b.machine.serve Command.binInfo [] =
      some ⟨wordBytes ([b.machine.mode, b.machine.pageSize, b.machine.pageCount,
        b.machine.maxMessageSize] ++ b.machine.family.toList), b.machine, []⟩ := rfl
  unfold binInfo
  rw [run_bind_of_ok (run_request_of_quiet hserve), ofReply_info]
  rfl

theorem run_writePages (b : Bare) (pages : List Page) :
    (writePages pages).run b = (.ok (), b) := by
  induction pages with
  | nil => rfl
  | cons page pages ih =>
    unfold writePages
    rw [run_bind_of_ok (run_request_of_quiet rfl), ih]

theorem run_order {command : UInt32} (hruns : b.machine.runs = false)
    (hserve : b.machine.serve command [] = none) :
    (order command).run b = (.ok (), ⟨b.machine.order command, b.untold⟩) := by
  simp only [order, run, Channel.tell, hruns, hserve]

theorem run_comeBack (hruns : b.machine.runs = false) :
    comeBack.run b = (.ok (), ⟨b.machine.opened, b.untold ++ b.machine.openedHalts⟩) := by
  simp only [comeBack, run, Channel.reopen, hruns]
  rfl

/-- Whatever runs on a machine, it ends up in its bootloader. -/
theorem run_enterBootloader (hruns : b.machine.runs = false) : ∃ info mode boots,
    enterBootloader.run b = (.ok info, ⟨{ b.machine with mode, boots }, b.untold⟩) := by
  unfold enterBootloader
  rw [run_bind_of_ok (run_binInfo_bare b)]
  by_cases hmode : b.machine.info.mode = .bootloader
  · rw [if_pos hmode]
    exact ⟨_, _, _, rfl⟩
  · let reset : Bare := ⟨b.machine.order Command.resetIntoBootloader, b.untold⟩
    have horder : (order Command.resetIntoBootloader).run b = (.ok (), reset) := run_order hruns rfl
    have hback : comeBack.run reset = (.ok (), reset) := by
      rw [run_comeBack rfl]
      exact congrArg (fun untold => (Except.ok (), Bare.mk _ untold)) (List.append_nil _)
    rw [if_neg hmode, run_bind_of_ok horder, run_bind_of_ok hback, run_binInfo_bare]
    -- The reset cleared `runs`, but that was not set in the first place.
    exact ⟨_, _, _, congrArg (fun runs => (_, Bare.mk { reset.machine with runs } _)) hruns.symm⟩

/-- An image starts with its status cell at zero, and runs up to the next halt. -/
theorem run_flash (image : Image) (hruns : b.machine.runs = false) : ∃ mode,
    (flash image).run b =
      (.ok (), ⟨{ b.machine.go with
        mode
        boots := false
        memory := b.machine.memory.write b.machine.area.address DebugStatus.disabled.word },
        b.untold ++ b.machine.nextHalts⟩) := by
  obtain ⟨info, mode, boots, henter⟩ := run_enterBootloader hruns
  let ready : Bare := ⟨{ b.machine with mode, boots }, b.untold⟩
  have horder : (order Command.resetIntoApp).run ready =
      (.ok (), ⟨ready.machine.order Command.resetIntoApp, ready.untold⟩) := run_order hruns rfl
  unfold flash
  rw [run_bind_of_ok henter, run_bind_of_ok (run_writePages _ _), run_bind_of_ok horder,
    run_comeBack rfl]
  exact ⟨_, rfl⟩

end Hf2.Dialogue

/-- A machine that does the same as a simulated device. -/
structure Hf2.Machine.IsLike (m : Machine) (d : SimulatedDevice) : Prop where
  memory_eq : m.memory = d.memory
  area_eq : m.area = d.area
  armed_eq : m.armed = d.armed
  halts_eq : m.halts = d.halts

theorem placesTold_pausedEvents {d : SimulatedDevice} (hevents : d.capabilities.events)
    (pc : Option UInt32) : placesTold (d.pausedEvents pc) = pc.toList := by
  cases pc with
  | none => rfl
  | some pc =>
    have hplace : haltPlace (wordBytes [pc]) = .ok pc := wordAt_zero_wordBytes pc []
    simp [SimulatedDevice.pausedEvents, hevents, placesTold, hplace, Except.toOption]

theorem SimulatedDevice.placesTold_answer (d : SimulatedDevice) (hevents : d.capabilities.events)
    (request : Request) :
    placesTold (d.answer request).events = (d.haltFrom request).toList := by
  rw [events_answer, placesTold_pausedEvents hevents]

namespace Hf2.Dialogue

variable {b : Bare} {d : SimulatedDevice}

/-- A machine answers what is said to it as a simulated device does that is like it. -/
theorem run_talk (hlike : b.machine.IsLike d) (hevents : d.capabilities.events) {opcode : UInt32}
    {payload reply : Bytes} (hreply : (d.answer (.talk opcode payload)).answer = .ok reply) :
    ∃ b', (request opcode payload).run b = (.ok reply, b') ∧
      b'.machine.IsLike (d.answer (.talk opcode payload)).link ∧
      b'.untold = b.untold ++ placesTold (d.answer (.talk opcode payload)).events ∧
      b'.machine.runs = (b.machine.runs || (Request.talk opcode payload).goes) := by
  obtain ⟨hmemory, harea, harmed, hhalts⟩ := hlike
  have hstays : b.machine.runs = (b.machine.runs || false) := (Bool.or_false _).symm
  by_cases hglobals : opcode = Opcode.getGlobals
  · subst hglobals
    cases hreply
    refine ⟨b, ?_, ⟨hmemory, harea, harmed, hhalts⟩, (List.append_nil _).symm, hstays⟩
    have hrun : (request Opcode.getGlobals payload).run b =
        (.ok (wordBytes [b.machine.area.count, b.machine.area.address]), b) :=
      run_request_of_quiet rfl
    rw [harea] at hrun
    exact hrun
  by_cases harms : opcode = Opcode.setBreakpoints
  · subst harms
    cases hwords : words? payload with
    | none => simp [SimulatedDevice.answer, hglobals, BoardDebug.readWords, hwords] at hreply
    | some addresses =>
      have hanswer : d.answer (.talk Opcode.setBreakpoints payload) =
          ⟨.ok ([] : Bytes), { d with armed := addresses }, []⟩ := by
        simp [SimulatedDevice.answer, hglobals, BoardDebug.readWords, hwords]
      have hserve : b.machine.serve Opcode.setBreakpoints payload =
          some ⟨[], { b.machine with armed := addresses }, []⟩ := by
        change (words? payload).map _ = _
        rw [hwords]
        rfl
      rw [hanswer] at hreply ⊢
      cases hreply
      exact ⟨_, run_request hserve, ⟨hmemory, harea, rfl, hhalts⟩, rfl, hstays⟩
  by_cases hresume : opcode = Opcode.resume
  · subst hresume
    cases hreply
    have hserve : b.machine.serve Opcode.resume payload =
        some ⟨[], b.machine.go, b.machine.nextHalts⟩ := rfl
    refine ⟨_, run_request hserve, ⟨hmemory, harea, harmed, congrArg List.tail hhalts⟩, ?_,
      (Bool.or_true _).symm⟩
    have htold := placesTold_pausedEvents hevents d.halts.head?
    unfold Machine.nextHalts
    rw [hhalts, ← htold]
    rfl
  · simp [SimulatedDevice.answer, hglobals, harms, hresume] at hreply

/-- A machine answers as a simulated device does that is like it, and stays like it. -/
theorem run_ofRequest (hlike : b.machine.IsLike d) (hevents : d.capabilities.events)
    {request : Request} (hrequest : request ≠ .queryHalt)
    (hstarts : request.starts → b.machine.runs = false) {reply : request.Reply}
    (hreply : (d.answer request).answer = .ok reply) :
    ∃ b', (ofRequest request).run b = (.ok reply, b') ∧
      b'.machine.IsLike (d.answer request).link ∧
      b'.untold = b.untold ++ placesTold (d.answer request).events ∧
      b'.machine.runs = (b.machine.runs || request.goes) := by
  have hstays : b.machine.runs = (b.machine.runs || false) := (Bool.or_false _).symm
  obtain ⟨hmemory, harea, harmed, hhalts⟩ := id hlike
  cases request with
  | queryHalt => exact absurd rfl hrequest
  | talk opcode payload => exact run_talk hlike hevents hreply
  | readWords address count =>
    cases hreply
    refine ⟨b, ?_, ⟨hmemory, harea, harmed, hhalts⟩, (List.append_nil _).symm, hstays⟩
    rw [← hmemory]
    exact run_readWords b address count.toNat
  | writeWords address words =>
    cases hreply
    refine ⟨_, run_writeWords b address words, ⟨?_, harea, harmed, hhalts⟩,
      (List.append_nil _).symm, hstays⟩
    simp only [SimulatedDevice.answer, hmemory]
  | flash image =>
    cases hreply
    obtain ⟨mode, hrun⟩ := run_flash image (hstarts rfl)
    refine ⟨_, hrun, ⟨?_, harea, harmed, ?_⟩, ?_, (Bool.or_true _).symm⟩
    · simp only [SimulatedDevice.answer, SimulatedDevice.run, hmemory, harea]
      rfl
    · simp only [SimulatedDevice.answer, SimulatedDevice.run, Machine.go, hhalts]
    · simp only [SimulatedDevice.answer, Machine.nextHalts, hhalts]
      rw [placesTold_pausedEvents (by exact hevents)]
      rfl

end Hf2.Dialogue

namespace Hf2Link

variable {β : Type} {options : Options} {view : β → Board} {link : Hf2Link β}
  {d : SimulatedDevice} {runs : Bool} {untold : List UInt32}

/-- A link to a board that does the same as a simulated device, with the halts that the link has not
handed on. -/
structure Mirrors (link : Hf2Link β) (options : Options) (view : β → Board) (d : SimulatedDevice)
    (runs : Bool) (untold : List UInt32) : Prop where
  tuned : ∃ m, link.Tuned options view .free m untold ∧ m.IsLike d ∧ m.runs = runs
  events_nil : link.events = []
  tells : d.capabilities.events
  failures : d.failures = []

theorem Mirrors.untold_unique {untold' : List UInt32} (h : link.Mirrors options view d runs untold)
    (h' : link.Mirrors options view d runs untold') : untold = untold' := by
  obtain ⟨m, htuned, -⟩ := h.tuned
  obtain ⟨m', htuned', -⟩ := h'.tuned
  exact htuned.untold_eq.symm.trans htuned'.untold_eq

variable [UsbBus β]

/-- A link after it has handed on what it had heard. -/
def listened (link : Hf2Link β) : List Event × Hf2Link β :=
  link.listen.takeEvents

theorem bus_listened (h : link.isOpen = true) :
    link.listened.2.bus = (UsbBus.receive link.bus).2 := by
  change link.listen.bus = _
  unfold listen
  rw [if_pos h]
  exact (take_keeps _ _).1

theorem Tuned.hand (hboard : IsBoard options view) {m : Machine}
    (h : link.Tuned options view .free m untold) : ∃ untold',
    placesTold link.listened.1 ++ untold' = untold ∧
      link.listened.2.Tuned options view .free m untold' := by
  have hlistened := h.listen hboard
  exact ⟨_, hlistened.untold_eq, { hlistened with untold_eq := rfl }⟩

/-- What a link hands on is some of what it has not yet handed on. -/
theorem Mirrors.hand (hboard : IsBoard options view) (h : link.Mirrors options view d runs untold) :
    ∃ untold', placesTold link.listened.1 ++ untold' = untold ∧
      link.listened.2.Mirrors options view d runs untold' := by
  obtain ⟨m, htuned, hmachine⟩ := h.tuned
  obtain ⟨untold', htold, hhanded⟩ := htuned.hand hboard
  exact ⟨untold', htold, ⟨m, hhanded, hmachine⟩, rfl, h.tells, h.failures⟩

/-- A granted request has the same answer over USB as on the simulated device, and sets off the same
halt if there is one, though that may be told of later. -/
theorem Mirrors.serve (hboard : IsBoard options view) (h : link.Mirrors options view d runs untold)
    {request : Request} (hrequest : request.IsGranted) (hstarts : request.starts → runs = false) :
    (link.serve request).answer = (Link.serve d request).answer ∧
      placesTold (Link.serve d request).events = (d.haltFrom request).toList ∧
      ∃ untold',
        placesTold (link.serve request).events ++ untold' =
          untold ++ (d.haltFrom request).toList ∧
        (link.serve request).link.Mirrors options view (Link.serve d request).link
          (runs || request.goes) untold' := by
  obtain ⟨m, htuned, hlike, rfl⟩ := h.tuned
  have hfake : Link.serve d request = (d.note request).answer request :=
    Routine.serve_answer request hrequest.1 (by simp [h.failures])
  have hevents : placesTold ((d.note request).answer request).events =
      (d.haltFrom request).toList := (d.note request).placesTold_answer h.tells request
  obtain ⟨reply, hreply⟩ := hrequest.2 (d.note request)
  obtain ⟨b, hrun, hlike', huntold, hruns⟩ :=
    Dialogue.run_ofRequest (b := ⟨m, untold⟩) (d := d.note request)
      ⟨hlike.memory_eq, hlike.area_eq, hlike.armed_eq, hlike.halts_eq⟩ h.tells hrequest.1 hstarts
      hreply
  obtain ⟨talked, htalk, htalked⟩ := Tuned.run hboard (b := ⟨m, untold⟩) htuned hrun
  have hserve : link.serve request = ⟨.ok reply, talked.listened.2, talked.listened.1⟩ := by
    unfold Hf2Link.serve
    rw [htalk]
    rfl
  obtain ⟨untold', htold, hhanded⟩ := htalked.hand hboard
  obtain ⟨hcapabilities, hfailures⟩ := (d.note request).answer_keeps request
  rw [hserve, hfake]
  refine ⟨hreply.symm, hevents, untold', ?_, ⟨b.machine, hhanded, hlike', hruns⟩, rfl, ?_,
    hfailures.trans h.failures⟩
  · rw [htold, huntold, hevents]
  · rw [hcapabilities]
    exact h.tells

/-- Whoever keeps listening to a board that runs its application is told of its halts. -/
theorem Mirrors.exists_told (hboard : IsBoard options view)
    (h : link.Mirrors options view d true untold) :
    ∃ count, ((fun link => link.listened.2)^[count] link).Mirrors options view d true [] := by
  obtain ⟨m, htuned, -, hruns⟩ := h.tuned
  rw [← htuned.machine_eq] at hruns
  obtain ⟨count, htold⟩ := hboard.tells link.bus hruns
  refine ⟨count, ?_⟩
  -- Listening changes the bus only as receiving does, so that the induction can forget the board.
  clear htuned hruns
  induction count generalizing link untold with
  | zero =>
    obtain ⟨m, htuned, hmachine⟩ := h.tuned
    have huntold := htuned.untold_eq
    rw [h.events_nil] at huntold
    obtain rfl : untold = [] := huntold.symm.trans htold
    exact h
  | succ count ih =>
    obtain ⟨untold', -, hhanded⟩ := h.hand hboard
    have hopen : link.isOpen = true := by
      obtain ⟨m, htuned, -⟩ := h.tuned
      exact htuned.isOpen
    refine ih hhanded ?_
    rw [bus_listened hopen]
    exact htold

end Hf2Link

end BoardDebug
