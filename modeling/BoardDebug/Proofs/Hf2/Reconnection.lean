import BoardDebug.Proofs.Hf2.Flashing

namespace BoardDebug

namespace Hf2Link

open Hf2

/-- What is left of an unfinished message after an arrival. -/
def leaves (assembler : Assembler) : Arrival → Assembler
  | .broken => .empty
  | .report bytes =>
    match assembler.push bytes with
    | .error _ => .empty
    | .ok (_, assembler) => assembler

/-- What is left of an unfinished message after arrivals. -/
def leftBy (assembler : Assembler) (arrivals : List Arrival) : Assembler :=
  arrivals.foldl leaves assembler

/-- What arrivals amount to, one after the other and also past the end of a connection. -/
def heardAll (assembler : Assembler) : List Arrival → List Happening
  | [] => []
  | arrival :: rest => heard assembler [arrival] ++ heardAll (leaves assembler arrival) rest

theorem leftBy_append (assembler : Assembler) (arrivals later : List Arrival) :
    leftBy assembler (arrivals ++ later) = leftBy (leftBy assembler arrivals) later :=
  List.foldl_append

theorem heardAll_append (assembler : Assembler) (arrivals later : List Arrival) :
    heardAll assembler (arrivals ++ later) =
      heardAll assembler arrivals ++ heardAll (leftBy assembler arrivals) later := by
  induction arrivals generalizing assembler with
  | nil => rfl
  | cons arrival arrivals ih =>
    rw [List.cons_append, heardAll, heardAll, ih, List.append_assoc]
    rfl

theorem heard_cons (assembler : Assembler) (bytes : Bytes) (rest : List Arrival) :
    heard assembler (.report bytes :: rest) =
      heard assembler [.report bytes] ++ heard (leaves assembler (.report bytes)) rest := by
  unfold leaves
  simp only [heard]
  cases assembler.push bytes with
  | error what => rfl
  | ok pushed =>
    obtain ⟨frame, assembler⟩ := pushed
    rcases frame with _ | message | ⟨errors, serial⟩ <;> rfl

theorem heardAll_single (assembler : Assembler) (arrival : Arrival) :
    heardAll assembler [arrival] = heard assembler [arrival] :=
  List.append_nil _

/-- What a report does is seen from the report alone. -/
theorem push_cases (bytes : Bytes) :
    (∃ what, ∀ a : Assembler, a.push bytes = .error what) ∨
    (∃ data, ∀ a : Assembler, a.push bytes = .ok (none, ⟨a.parts ++ data⟩)) ∨
    (∃ data, ∀ a : Assembler, a.push bytes = .ok (some (.message (a.parts ++ data)), .empty)) ∨
    ∃ errors data, ∀ a : Assembler, a.push bytes = .ok (some (.serial errors data), a) := by
  cases bytes with
  | nil => exact .inr (.inl ⟨[], fun a => by simp [Assembler.push]⟩)
  | cons header rest =>
    by_cases hshort : rest.length < header.toNat % 64
    · exact .inl ⟨_, fun a => if_pos hshort⟩
    · let data := rest.take (header.toNat % 64)
      cases hkind : PacketKind.ofHeader header with
      | inner =>
        refine .inr (.inl ⟨data, fun a => ?_⟩)
        simp only [Assembler.push, if_neg hshort, hkind, data]
      | final =>
        refine .inr (.inr (.inl ⟨data, fun a => ?_⟩))
        simp only [Assembler.push, if_neg hshort, hkind, data]
      | serial errors =>
        refine .inr (.inr (.inr ⟨errors, data, fun a => ?_⟩))
        simp only [Assembler.push, if_neg hshort, hkind, data]

/-- What is left over makes no difference but to the first message, which it stands in front of. -/
theorem heardAll_leftover (left parts : Bytes) (arrivals : List Arrival) :
    heardAll ⟨left ++ parts⟩ arrivals = heardAll ⟨parts⟩ arrivals ∨ ∃ message rest,
      heardAll ⟨parts⟩ arrivals = .message message :: rest ∧
      heardAll ⟨left ++ parts⟩ arrivals = .message (left ++ message) :: rest := by
  induction arrivals generalizing parts with
  | nil => exact .inl rfl
  | cons arrival arrivals ih =>
    cases arrival with
    | broken => exact .inl rfl
    | report bytes =>
      unfold heardAll heard leaves
      obtain ⟨what, h⟩ | ⟨data, h⟩ | ⟨data, h⟩ | ⟨errors, data, h⟩ := push_cases bytes
      · simp only [h]
        exact .inl trivial
      · simp only [h, List.append_assoc]
        exact ih (parts ++ data)
      · refine .inr ⟨parts ++ data, heardAll .empty arrivals, ?_, ?_⟩
        · simp [h, heard]
        · simp [h, heard]
      · simp only [h]
        exact ih parts

variable {β : Type}

theorem assembler_take_single (link : Hf2Link β) (arrival : Arrival) :
    (link.take [arrival]).exchange.assembler = leaves link.exchange.assembler arrival := by
  cases arrival with
  | broken => rfl
  | report bytes =>
    change (link.exchange.feed bytes).1.assembler = _
    unfold leaves Exchange.feed
    cases hpush : link.exchange.assembler.push bytes with
    | error what => simp only [hpush]
    | ok pushed =>
      obtain ⟨frame, assembler⟩ := pushed
      rcases frame with _ | message | ⟨errors, serial⟩
      · simp only [hpush]
      · let fed : Hf2Link β := { link with exchange := { link.exchange with assembler } }
        simp only [hpush]
        exact assembler_after_message fed message
      · simp only [hpush]

/-- A link with the thread that reads from its device. The thread looks at what it has read only
when it holds the device no longer. -/
structure Reader (β : Type) where
  link : Hf2Link β
  /-- What was read and is not yet taken in. -/
  held : Option Arrival

namespace Reader

/-- A step of the thread or of a caller, with what is read and what comes of that. -/
inductive Step : Reader β → List Arrival → List Happening → Reader β → Prop where
  | read {link : Hf2Link β} (arrival : Arrival) (hopen : link.isOpen = true) :
    Step ⟨link, none⟩ [arrival] [] ⟨link, some arrival⟩
  | digest (link : Hf2Link β) (arrival : Arrival) :
    Step ⟨link, some arrival⟩ [] (heard link.exchange.assembler [arrival])
      ⟨link.take [arrival], none⟩
  /-- Callers close and open devices, send and wait. None of them touches unfinished messages. -/
  | call {link link' : Hf2Link β} (held : Option Arrival)
    (h : link'.exchange.assembler = link.exchange.assembler) :
    Step ⟨link, held⟩ [] [] ⟨link', held⟩

/-- Steps of the thread and of callers in any order. -/
inductive Run : Reader β → List Arrival → List Happening → Reader β → Prop where
  | nil (reader : Reader β) : Run reader [] [] reader
  | step {reader next last : Reader β} {reads laterReads : List Arrival}
    {messages laterMessages : List Happening} (h : reader.Step reads messages next)
    (hlater : Run next laterReads laterMessages last) :
    Run reader (reads ++ laterReads) (messages ++ laterMessages) last

variable {reader next last : Reader β} {reads laterReads : List Arrival}
  {messages laterMessages : List Happening}

/-- What was read and not yet taken in. -/
def waiting (reader : Reader β) : List Arrival :=
  reader.held.toList

def assembler (reader : Reader β) : Assembler :=
  reader.link.exchange.assembler

theorem Run.single (h : reader.Step reads messages next) : reader.Run reads messages next := by
  have hrun := Run.step h (.nil next)
  rwa [List.append_nil, List.append_nil] at hrun

theorem Run.trans (h : reader.Run reads messages next)
    (hlater : next.Run laterReads laterMessages last) :
    reader.Run (reads ++ laterReads) (messages ++ laterMessages) last := by
  induction h with
  | nil reader => exact hlater
  | step hstep _ ih =>
    rw [List.append_assoc, List.append_assoc]
    exact .step hstep (ih hlater)

/-- A step loses nothing of what was read, and adds nothing to it. -/
theorem Step.conserves (h : reader.Step reads messages next) :
    messages ++ heardAll next.assembler next.waiting =
        heardAll reader.assembler (reader.waiting ++ reads) ∧
      leftBy next.assembler next.waiting = leftBy reader.assembler (reader.waiting ++ reads) := by
  cases h with
  | read arrival hopen => exact ⟨rfl, rfl⟩
  | digest link arrival => exact ⟨rfl, assembler_take_single link arrival⟩
  | call held h =>
    simp only [assembler, waiting, h, List.append_nil]
    exact ⟨rfl, trivial⟩

/-- In whatever order the thread and the callers take their steps, what is dispatched is what the
arrivals amount to. -/
theorem Run.conserves (h : reader.Run reads messages last) :
    messages ++ heardAll last.assembler last.waiting =
        heardAll reader.assembler (reader.waiting ++ reads) ∧
      leftBy last.assembler last.waiting = leftBy reader.assembler (reader.waiting ++ reads) := by
  induction h with
  | nil reader => simp
  | step hstep hlater ih =>
    obtain ⟨hheard, hleft⟩ := hstep.conserves
    obtain ⟨hheards, hlefts⟩ := ih
    rw [← List.append_assoc]
    constructor
    · rw [heardAll_append, ← hheard, ← hleft, List.append_assoc, hheards, heardAll_append,
        List.append_assoc]
    · rw [hlefts, leftBy_append, leftBy_append, hleft]

/-- The thread can take in what it holds. -/
theorem exists_run_settled (reader : Reader β) : ∃ settled : Hf2Link β,
    reader.Run [] (heardAll reader.assembler reader.waiting) ⟨settled, none⟩ ∧
      settled.exchange.assembler = leftBy reader.assembler reader.waiting := by
  obtain ⟨link, held⟩ := reader
  cases held with
  | none => exact ⟨link, .nil _, rfl⟩
  | some arrival =>
    refine ⟨link.take [arrival], ?_, assembler_take_single link arrival⟩
    have hrun := Run.single (.digest link arrival)
    rwa [← heardAll_single] at hrun

/-- The thread can read something and take it in, once there is a device. -/
theorem exists_run_arrival (link : Hf2Link β) (arrival : Arrival) : ∃ last : Hf2Link β,
    Run ⟨link, none⟩ [arrival] (heard link.exchange.assembler [arrival]) ⟨last, none⟩ := by
  let opened : Hf2Link β := { link with isOpen := true }
  have hopen : Step ⟨link, none⟩ [] [] ⟨opened, none⟩ := .call none rfl
  have hread : Step ⟨opened, none⟩ [arrival] [] ⟨opened, some arrival⟩ := .read arrival rfl
  have hdigest := Run.single (.digest opened arrival)
  exact ⟨_, .step hopen (.step hread hdigest)⟩

/-- Exactly a thread with nothing of a message dispatches what comes from new reports alone. -/
theorem isolated_iff (reader : Reader β) :
    (∀ reads messages last, reader.Run reads messages ⟨last, none⟩ →
        messages = heardAll .empty reads) ↔
      heardAll reader.assembler reader.waiting = [] ∧
        (leftBy reader.assembler reader.waiting).parts = [] := by
  constructor
  · intro hisolated
    obtain ⟨settled, hsettle, hsettled⟩ := exists_run_settled reader
    have hnone : heardAll reader.assembler reader.waiting = [] := hisolated _ _ _ hsettle
    refine ⟨hnone, ?_⟩
    -- The shortest last packet shows what stands in front of it.
    obtain ⟨last, hlast⟩ := exists_run_arrival settled (.report [0x40])
    have hmessage := hisolated _ _ _ (hsettle.trans hlast)
    rw [hnone, hsettled] at hmessage
    simpa [heardAll, heard, Assembler.push, PacketKind.ofHeader, Assembler.empty] using hmessage
  · rintro ⟨hnone, hparts⟩ reads messages last hrun
    have hempty : leftBy reader.assembler reader.waiting = .empty :=
      congrArg Assembler.mk hparts
    obtain ⟨hmessages, -⟩ := hrun.conserves
    rw [heardAll_append, hnone, hempty] at hmessages
    simpa [waiting, heardAll] using hmessages

/-- A thread that holds nothing spoils at most the first message of the new reports, by what is left
of an old one. -/
theorem Run.spoils_first {link last : Hf2Link β}
    (h : Run ⟨link, none⟩ reads messages ⟨last, none⟩) :
    messages = heardAll .empty reads ∨ ∃ message rest,
      heardAll .empty reads = .message message :: rest ∧
      messages = .message (link.exchange.assembler.parts ++ message) :: rest := by
  obtain ⟨hmessages, -⟩ := h.conserves
  have hall : messages = heardAll link.exchange.assembler reads := by
    simpa [waiting, heardAll, assembler] using hmessages
  have hleftover := heardAll_leftover link.exchange.assembler.parts [] reads
  rw [List.append_nil] at hleftover
  rw [hall]
  exact hleftover

end Reader

open Reader

/-- The thread can take in what arrives up to the end of the connection. -/
theorem exists_run_take (link : Hf2Link β) (hopen : link.isOpen = true) (arrivals : List Arrival) :
    ∃ reads, Run ⟨link, none⟩ reads (heard link.exchange.assembler arrivals)
      ⟨link.take arrivals, none⟩ := by
  induction arrivals generalizing link with
  | nil => exact ⟨[], .nil _⟩
  | cons arrival arrivals ih =>
    have hread : Step ⟨link, none⟩ [arrival] [] ⟨link, some arrival⟩ := .read arrival hopen
    have hfirst := Run.step hread (.single (.digest link arrival))
    cases arrival with
    | broken => exact ⟨_, hfirst⟩
    | report bytes =>
      obtain ⟨reads, hrest⟩ := ih (link.take [.report bytes]) hopen
      have hall := hfirst.trans hrest
      rw [assembler_take_single, List.nil_append, ← heard_cons] at hall
      exact ⟨_, hall⟩

variable [UsbBus β]

theorem exists_run_listen (link : Hf2Link β) :
    ∃ reads messages, Run ⟨link, none⟩ reads messages ⟨link.listen, none⟩ := by
  by_cases hopen : link.isOpen = true
  · let listening : Hf2Link β := { link with bus := (UsbBus.receive link.bus).2 }
    obtain ⟨reads, hrun⟩ :=
      exists_run_take listening hopen (UsbBus.receive link.bus).1
    have hcall : Step ⟨link, none⟩ [] [] ⟨listening, none⟩ := .call none rfl
    have hlisten : link.listen = listening.take (UsbBus.receive link.bus).1 := if_pos hopen
    rw [hlisten]
    exact ⟨_, _, .step hcall hrun⟩
  · refine ⟨[], [], ?_⟩
    rw [listen, if_neg hopen]
    exact .nil _

theorem exchange_send (link : Hf2Link β) (message : Bytes) :
    (link.send message).2.exchange = link.exchange := by
  unfold send
  split <;> rfl

theorem exchange_reopen (link : Hf2Link β) : link.reopen.2.exchange = link.exchange := by
  unfold reopen
  dsimp only
  split
  · rfl
  · split <;> rfl

theorem exists_run_ask (link : Hf2Link β) (command : UInt32) (payload : Bytes) :
    ∃ reads messages, Run ⟨link, none⟩ reads messages ⟨(link.ask command payload).2, none⟩ := by
  have hsend : Step ⟨link, none⟩ [] [] ⟨(link.asking command payload).2, none⟩ := by
    refine .call none ?_
    rw [asking, exchange_send]
    rfl
  rw [ask_eq]
  generalize link.asking command payload = asked at hsend ⊢
  obtain ⟨result, sent⟩ := asked
  cases result with
  | error error => exact ⟨_, _, .step hsend (.single (.call none rfl))⟩
  | ok _ =>
    obtain ⟨reads, messages, hlisten⟩ := exists_run_listen sent
    have hconclude : Step ⟨sent.listen, none⟩ [] [] ⟨(sent.listen.conclude command).2, none⟩ :=
      .call none (by rw [conclude_snd]; rfl)
    exact ⟨_, _, .step hsend (hlisten.trans (.single hconclude))⟩

/-- Whatever is said to a device, the thread and its callers can take the steps of it. -/
theorem exists_run_dialogue {α : Type} (dialogue : Dialogue α) (link : Hf2Link β) :
    ∃ reads messages, Run ⟨link, none⟩ reads messages ⟨(dialogue.run link).2, none⟩ := by
  induction dialogue generalizing link with
  | done result => exact ⟨[], [], .nil _⟩
  | ask command payload next ih =>
    obtain ⟨reads, messages, hask⟩ := exists_run_ask link command payload
    simp only [Dialogue.run, Channel.ask]
    generalize link.ask command payload = asked at hask ⊢
    obtain ⟨result, link'⟩ := asked
    cases result with
    | error error => exact ⟨_, _, hask⟩
    | ok reply =>
      obtain ⟨laterReads, laterMessages, hlater⟩ := ih reply link'
      exact ⟨_, _, hask.trans hlater⟩
  | tell command next ih =>
    have htell : Step ⟨link, none⟩ [] [] ⟨(link.tell command).2, none⟩ := by
      refine .call none ?_
      rw [tell, exchange_send]
      rfl
    simp only [Dialogue.run, Channel.tell]
    generalize link.tell command = told at htell ⊢
    obtain ⟨result, link'⟩ := told
    cases result with
    | error error => exact ⟨_, _, .single htell⟩
    | ok _ =>
      obtain ⟨laterReads, laterMessages, hlater⟩ := ih link'
      exact ⟨_, _, .step htell hlater⟩
  | reopen next ih =>
    have hreopen : Step ⟨link, none⟩ [] [] ⟨link.reopen.2, none⟩ :=
      .call none (congrArg Exchange.assembler (exchange_reopen link))
    simp only [Dialogue.run, Channel.reopen]
    generalize link.reopen = reopened at hreopen ⊢
    obtain ⟨result, link'⟩ := reopened
    cases result with
    | error error => exact ⟨_, _, .single hreopen⟩
    | ok _ =>
      obtain ⟨laterReads, laterMessages, hlater⟩ := ih link'
      exact ⟨_, _, .step hreopen hlater⟩

/-- Reconnecting separates the messages of the new device from the reports of the old one exactly
if all that came from the old one was complete messages, and all of them were dispatched. -/
theorem reopen_isolates_iff {opened link : Hf2Link β} {held : Option Arrival} {old : List Arrival}
    {dispatched : List Happening} (hopened : opened.exchange.assembler = .empty)
    (hold : Run ⟨opened, none⟩ old dispatched ⟨link, held⟩) :
    (∀ reads messages last, Run ⟨link.reopen.2, held⟩ reads messages ⟨last, none⟩ →
        messages = heardAll .empty reads) ↔
      dispatched = heardAll .empty old ∧ (leftBy .empty old).parts = [] := by
  obtain ⟨hheard, hleft⟩ := hold.conserves
  have hstart : (⟨opened, none⟩ : Reader β).assembler = .empty := hopened
  have hreopen : (⟨link.reopen.2, held⟩ : Reader β).assembler =
      (⟨link, held⟩ : Reader β).assembler :=
    congrArg Exchange.assembler (exchange_reopen link)
  rw [hstart] at hheard hleft
  change dispatched ++ heardAll _ _ = heardAll .empty old at hheard
  change leftBy _ _ = leftBy .empty old at hleft
  rw [isolated_iff, hreopen, ← hheard, ← hleft, List.self_eq_append_right]
  rfl

/-- The new device may answer only half of a message when the old one has said the other half. -/
theorem reopen_not_isolated :
    let opened : Hf2Link ScriptedBus := ⟨.standard, soleBus, true, 1, .idle, []⟩
    let old : List Arrival := [.report [3, 0xaa, 0xbb, 0xcc]]
    let link := opened.take old
    opened.exchange.assembler = .empty ∧ Run ⟨opened, none⟩ old [] ⟨link, none⟩ ∧
      ¬∀ reads messages last, Run ⟨link.reopen.2, none⟩ reads messages ⟨last, none⟩ →
        messages = heardAll .empty reads := by
  intro opened old link
  have hold : Run ⟨opened, none⟩ old [] ⟨link, none⟩ :=
    .step (.read _ rfl) (.single (.digest opened (.report [3, 0xaa, 0xbb, 0xcc])))
  refine ⟨rfl, hold, fun hisolated => ?_⟩
  have hparts := ((reopen_isolates_iff rfl hold).1 hisolated).2
  cases hparts

deriving instance DecidableEq for Happening

/-- A bus whose device is reset in the middle of a message. -/
def interruptedBus : ScriptedBus :=
  let entry (command : UInt32) (items : List ScriptItem) : ScriptEntry :=
    ⟨some command, 1, none, none, [], false, items⟩
  let info (mode : UInt32) : ScriptItem := .reply (.after 0) 0 0 (wordBytes [mode, 16, 64, 64]) 63
  { soleBus with
    script :=
      [entry Command.binInfo [info 2, .report [3, 0xaa, 0xbb, 0xcc]],
        entry Command.binInfo [info 1]] }

/-- What the application had begun to say stands in front of what the bootloader says, which
therefore answers nothing. -/
theorem flash_interrupted :
    ∃ link : Hf2Link ScriptedBus, connect .standard interruptedBus = .ok link ∧
      let image : Image := ⟨[⟨0x2000, [1]⟩]⟩
      let turns := (Dialogue.flash image).turns link
      let served := link.serve (.flash image)
      (turns[3]?.map fun turn => (turn.channel.asking Command.binInfo []).2.arriving) =
          some [.message ([0xaa, 0xbb, 0xcc] ++
            (Answer.response 3 0 0 (wordBytes [1, 16, 64, 64])).bytes)] ∧
        served.answer = .error (.timeout Command.binInfo) ∧
        served.link.bus.commands.map (·.command) =
          [Command.binInfo, Command.resetIntoBootloader, Command.binInfo] := by
  refine ⟨_, rfl, ?_⟩
  decide +kernel

end Hf2Link

end BoardDebug
