import BoardDebug.Proofs.Hf2.Flashing
import BoardDebug.Proofs.Hf2.Framing
import BoardDebug.Proofs.Bytes
import BoardDebug.Device.Simulated
import Mathlib.Logic.Function.Iterate

namespace BoardDebug

namespace Hf2

/-- What a board that can be debugged does, apart from how it talks. -/
structure Machine where
  /-- What it says of itself: whether its bootloader runs, the size of its pages, and so on. -/
  mode : UInt32
  pageSize : UInt32
  pageCount : UInt32
  maxMessageSize : UInt32
  family : Option UInt32
  memory : Memory
  area : GlobalsArea
  armed : List UInt32
  /-- The places of the halts to come. -/
  halts : List UInt32
  /-- It was reset into its application, and has not been opened since. -/
  boots : Bool
  /-- It runs its application since it was reset into that. -/
  runs : Bool

/-- What comes of a command: its answer, and the places at which the board halts. -/
structure Effect where
  reply : Bytes
  machine : Machine
  halts : List UInt32

namespace Machine

/-- Runs up to the next halt. -/
def go (m : Machine) : Machine :=
  { m with halts := m.halts.tail, runs := true }

/-- The halt up to which it runs, if there is one. -/
def nextHalts (m : Machine) : List UInt32 :=
  m.halts.head?.toList

/-- Carries out a command that has an answer. -/
def serve (m : Machine) (command : UInt32) (payload : Bytes) : Option Effect :=
  if command = Command.binInfo then
    let words := [m.mode, m.pageSize, m.pageCount, m.maxMessageSize] ++ m.family.toList
    some ⟨wordBytes words, m, []⟩
  else if command = Command.writeFlashPage then some ⟨[], m, []⟩
  else if command = Command.readWords then
    match words? payload with
    | some [address, count] => some ⟨wordBytes (m.memory.readWords address count.toNat), m, []⟩
    | _ => none
  else if command = Command.writeWords then
    match words? payload with
    | some (address :: count :: words) =>
      let memory := m.memory.writeWords address (words.take count.toNat)
      some ⟨[], { m with memory }, []⟩
    | _ => none
  else if command = Opcode.getGlobals then some ⟨wordBytes [m.area.count, m.area.address], m, []⟩
  else if command = Opcode.setBreakpoints then
    (words? payload).map fun addresses => ⟨[], { m with armed := addresses }, []⟩
  else if command = Opcode.resume then some ⟨[], m.go, m.nextHalts⟩
  else none

/-- Carries out a command that has no answer. -/
def order (m : Machine) (command : UInt32) : Machine :=
  if command = Command.resetIntoBootloader then { m with mode := 1, boots := false, runs := false }
  else if command = Command.resetIntoApp then { m with mode := 2, boots := true, runs := false }
  else m

/-- Is opened. An application begins with its status cell at zero. -/
def opened (m : Machine) : Machine :=
  if m.boots then
    go { m with
      boots := false
      memory := m.memory.write m.area.address DebugStatus.disabled.word }
  else m

/-- The halts that it comes to when it is opened. -/
def openedHalts (m : Machine) : List UInt32 :=
  if m.boots then m.nextHalts else []

end Machine

/-- A board with what passes between it and its host. -/
structure Board where
  machine : Machine
  /-- The halts that the host has not been told of. -/
  untold : List UInt32
  /-- The answer that is still to be sent. -/
  owed : Option Bytes
  /-- Puts the commands together. -/
  command : Assembler
  /-- The parts of an unfinished message. -/
  sending : Bytes

namespace Board

/-- Takes a complete command. -/
def obey (b : Board) (sent : SentCommand) : Board :=
  match b.machine.serve sent.command sent.payload with
  | some effect =>
    { b with
      machine := effect.machine
      untold := b.untold ++ effect.halts
      owed := some (Answer.response sent.tag 0 0 effect.reply).bytes }
  | none => { b with machine := b.machine.order sent.command }

/-- Takes a report, whose first byte is its number. -/
def accept (b : Board) (report : Bytes) : Board :=
  match b.command.push report.tail with
  | .error _ => { b with command := .empty }
  | .ok (some (.message message), command) =>
    match ScriptedBus.readCommand? message with
    | some sent => { b with command }.obey sent
    | none => { b with command }
  | .ok (_, command) => { b with command }

/-- Is opened. -/
def opened (b : Board) : Board where
  machine := b.machine.opened
  untold := b.untold ++ b.machine.openedHalts
  owed := none
  command := .empty
  sending := []

/-- What a board may say: the answer that it owes, a halt, or an event of which nobody cares. -/
inductive Says (b : Board) : Bytes → Board → Prop where
  | answer {message : Bytes} (h : b.owed = some message) :
    Says b message { b with owed := none, sending := [] }
  | halt {pc : UInt32} {rest : List UInt32} (more : Bytes) (h : b.untold = pc :: rest) :
    Says b (Answer.event ⟨Opcode.paused, wordBytes [pc] ++ more⟩).bytes
      { b with untold := rest, sending := [] }
  | other (event : Event) (hcode : IsEventCode event.code) (hother : event.code ≠ Opcode.paused) :
    Says b (Answer.event event).bytes { b with sending := [] }

/-- What a board may send up to some point: the answer that it owes by then, and whatever else it
says, cut into packets, among which there may be console output. What it has begun to say before it
runs its application is complete by then, so that no reset cuts it off. -/
inductive Sends : Board → List Bytes → Board → Prop where
  | stop {b : Board} (howed : b.owed = none) (hwhole : b.machine.runs = false → b.sending = []) :
    Sends b [] b
  | serial {b b' : Board} {reports : List Bytes} (errors : Bool) {data : Bytes}
    (hdata : data.length < 64) (padding : Bytes) (hrest : Sends b reports b') :
    Sends b ((packet (.serial errors) data ++ padding) :: reports) b'
  | inner {b b' : Board} {reports : List Bytes} {data : Bytes} (hdata : data.length < 64)
    (padding : Bytes) (hrest : Sends { b with sending := b.sending ++ data } reports b') :
    Sends b ((packet .inner data ++ padding) :: reports) b'
  | final {b said b' : Board} {reports : List Bytes} {data : Bytes} (hdata : data.length < 64)
    (padding : Bytes) (hmessage : b.Says (b.sending ++ data) said) (hrest : Sends said reports b') :
    Sends b ((packet .final data ++ padding) :: reports) b'

end Board

/-- On a bus there is a board, which `view` shows. It is there again after a reset, takes what is
written, answers in time, and tells of its halts sooner or later. -/
structure IsBoard {β : Type} [UsbBus β] (options : Options) (view : β → Board) : Prop where
  opens : ∀ (bus bus' : β) device, UsbBus.openDevice bus device = .ok bus' →
    view bus' = (view bus).opened
  returns : ∀ bus : β, ∃ bus', openDevice options.afterReset bus = .ok bus'
  patient : Hf2Link.searchInterval < options.reconnectTimeout
  writes : ∀ (bus : β) report, ∃ bus', UsbBus.write bus report = (.ok (), bus') ∧
    view bus' = (view bus).accept report
  sends : ∀ bus : β, ∃ reports bus', UsbBus.receive bus = (reports.map .report, bus') ∧
    (view bus).Sends reports (view bus')
  tells : ∀ bus : β, (view bus).machine.runs = true →
    ∃ count, (view ((fun bus => (UsbBus.receive bus).2)^[count] bus)).untold = []

namespace Board

/-- Packets whose parts make up a command are taken as that command. -/
theorem accept_packets {b : Board} {parts : List Bytes} {sent : SentCommand} (hparts : parts ≠ [])
    (hlength : ∀ part ∈ parts, part.length < 64)
    (hsent : ScriptedBus.readCommand? (b.command.parts ++ parts.flatten) = some sent) :
    ((packets parts).map outputReport).foldl accept b = { b with command := .empty }.obey sent := by
  -- The last part is the final packet, so the induction distinguishes one part and several.
  induction parts generalizing b with
  | nil => exact absurd rfl hparts
  | cons part parts ih =>
    obtain ⟨hpart, hrest⟩ := List.forall_mem_cons.1 hlength
    cases parts with
    | nil =>
      have hpush := push_packet b.command .final hpart
        (List.replicate (reportSize - (packet .final part).length) 0)
      rw [List.flatten_singleton] at hsent
      simp only [packets, List.map_cons, List.map_nil, List.foldl_cons, List.foldl_nil, accept,
        outputReport, List.cons_append, List.tail_cons, hpush, hsent]
    | cons next parts =>
      have hpush := push_packet b.command .inner hpart
        (List.replicate (reportSize - (packet .inner part).length) 0)
      have haccept : b.accept (outputReport (packet .inner part)) =
          { b with command := ⟨b.command.parts ++ part⟩ } := by
        simp only [accept, outputReport, List.cons_append, List.tail_cons, hpush]
      let longer : Board := { b with command := ⟨b.command.parts ++ part⟩ }
      have hstep : ((packets (next :: parts)).map outputReport).foldl accept longer =
          { longer with command := .empty }.obey sent :=
        ih (by simp) hrest (by simpa [longer] using hsent)
      rw [packets, List.map_cons, List.foldl_cons, haccept]
      · exact hstep
      · simp

theorem accept_outputReports {b : Board} (hb : b.command = .empty) (command : UInt32)
    (tag : UInt16) (payload : Bytes) :
    (outputReports (commandMessage command tag payload)).foldl accept b =
      b.obey ⟨command, tag, payload⟩ := by
  have hne : commandMessage command tag payload ≠ [] := by simp [commandMessage, Word.bytes]
  have hsent : ScriptedBus.readCommand?
      (b.command.parts ++ (chunks maxPayload (commandMessage command tag payload)).flatten) =
      some ⟨command, tag, payload⟩ := by
    rw [flatten_chunks (by decide), hb]
    exact readCommand?_commandMessage command tag payload
  have hlength (part : Bytes)
      (hpart : part ∈ chunks maxPayload (commandMessage command tag payload)) : part.length < 64 :=
    Nat.lt_succ_of_le (length_le_of_mem_chunks hpart)
  unfold outputReports
  rw [accept_packets (chunks_ne_nil hne) hlength hsent, ← hb]

end Board

theorem Board.sending_accept (b : Board) (report : Bytes) :
    (b.accept report).sending = b.sending := by
  unfold Board.accept
  split
  · rfl
  · split
    · unfold Board.obey
      split <;> rfl
    · rfl
  · rfl

/-- What a board has begun to say does not matter for what it may say. -/
theorem Board.Says.begun {b said : Board} {message : Bytes} (h : b.Says message said)
    (sending : Bytes) : { b with sending }.Says message said := by
  cases h with
  | answer howed => exact .answer howed
  | halt more huntold => exact .halt more huntold
  | other event hcode hother => exact .other event hcode hother

/-- A message may be sent in any parts. -/
theorem Board.sends_packets {b said b' : Board} {parts reports : List Bytes} (hparts : parts ≠ [])
    (hlength : ∀ part ∈ parts, part.length < 64)
    (hmessage : b.Says (b.sending ++ parts.flatten) said) (hrest : said.Sends reports b') :
    b.Sends (packets parts ++ reports) b' := by
  induction parts generalizing b with
  | nil => exact absurd rfl hparts
  | cons part parts ih =>
    obtain ⟨hpart, hothers⟩ := List.forall_mem_cons.1 hlength
    cases parts with
    | nil =>
      have hfinal := Board.Sends.final hpart [] (by simpa using hmessage) hrest
      simpa [packets] using hfinal
    | cons next parts =>
      rw [List.flatten_cons, ← List.append_assoc] at hmessage
      have hinner := Board.Sends.inner hpart [] (ih (by simp) hothers (hmessage.begun _))
      simpa [packets] using hinner

/-- A bus with a board on it that always prints something, tells of its halts at once, and only then
answers. -/
structure ChattyBus where
  machine : Machine
  untold : List UInt32
  owed : Option Bytes
  command : Assembler

namespace ChattyBus

def ofBoard (b : Board) : ChattyBus := ⟨b.machine, b.untold, b.owed, b.command⟩

def board (bus : ChattyBus) : Board := ⟨bus.machine, bus.untold, bus.owed, bus.command, []⟩

theorem board_ofBoard {b : Board} (h : b.sending = []) : (ofBoard b).board = b := by
  cases b
  cases h
  rfl

/-- A bus with a board that does the same as a simulated device. Its application runs already. -/
def like (d : SimulatedDevice) : ChattyBus where
  machine :=
    { mode := 2
      pageSize := 256
      pageCount := 64
      maxMessageSize := 64
      family := none
      memory := d.memory
      area := ⟨d.globalCount, d.globalsAddress⟩
      armed := d.armed
      halts := d.halts
      boots := false
      runs := false }
  untold := []
  owed := none
  command := .empty

/-- What it says, in packets the last one of which is empty. -/
def say (message : Bytes) : List Bytes :=
  packets (chunks maxPayload message ++ [[]])

def tell (pc : UInt32) : List Bytes :=
  say (Answer.event ⟨Opcode.paused, wordBytes [pc]⟩).bytes

instance : UsbBus ChattyBus where
  devices _ := .ok [⟨0x239a, 0x0018, usagePage, none, none, "sole"⟩]
  openDevice bus _ := .ok (ofBoard bus.board.opened)
  write bus report := (.ok (), ofBoard (bus.board.accept report))
  receive bus :=
    ((packet (.serial false) [] :: (bus.untold.flatMap tell ++ bus.owed.toList.flatMap say)).map
      .report, { bus with untold := [], owed := none })

/-- A whole message is understood as it was meant. -/
theorem sends_say {b said b' : Board} {message : Bytes} {reports : List Bytes}
    (hb : b.sending = []) (hmessage : b.Says message said) (hrest : said.Sends reports b') :
    b.Sends (say message ++ reports) b' := by
  refine Board.sends_packets (by simp) ?_ ?_ hrest
  · intro part hpart
    obtain hpart | hpart := List.mem_append.1 hpart
    · exact Nat.lt_succ_of_le (length_le_of_mem_chunks hpart)
    · rw [List.mem_singleton.1 hpart]
      decide
  · rw [hb, List.flatten_append, flatten_chunks (by decide)]
    simpa using hmessage

theorem sends_all (bus : ChattyBus) :
    bus.board.Sends (bus.untold.flatMap tell ++ bus.owed.toList.flatMap say)
      { bus with untold := [], owed := none }.board := by
  obtain ⟨machine, untold, owed, command⟩ := bus
  induction untold with
  | nil =>
    have hstop : Board.Sends ⟨machine, [], none, command, []⟩ [] ⟨machine, [], none, command, []⟩ :=
      .stop rfl fun _ => rfl
    cases owed with
    | none => exact hstop
    | some message => exact sends_say rfl (.answer rfl) hstop
  | cons pc untold ih =>
    have hhalt : Board.Says ⟨machine, pc :: untold, owed, command, []⟩ _ _ := .halt [] rfl
    rw [List.append_nil] at hhalt
    rw [List.flatMap_cons, List.append_assoc]
    exact sends_say rfl hhalt ih

theorem isBoard : IsBoard .standard board where
  opens bus bus' device h := by
    cases h
    rfl
  returns bus := ⟨_, rfl⟩
  patient := by decide
  writes bus report := ⟨_, rfl, board_ofBoard (bus.board.sending_accept report)⟩
  sends bus := ⟨_, _, rfl, .serial false (by decide) [] bus.sends_all⟩
  tells bus _ := ⟨1, rfl⟩

end ChattyBus

end Hf2

/-- The places of the halts that events tell of. -/
def placesTold (events : List Event) : List UInt32 :=
  events.filterMap fun event =>
    if event.code = Opcode.paused then (haltPlace event.payload).toOption else none

theorem placesTold_append (events later : List Event) :
    placesTold (events ++ later) = placesTold events ++ placesTold later :=
  List.filterMap_append

namespace Hf2Link

open Hf2

variable {β : Type} {options : Options} {view : β → Board} {link : Hf2Link β} {m : Machine}
  {untold : List UInt32} {slot final : Slot}

/-- A link that is open on a board, with the halts of the board that the link has not handed on. -/
structure Meets (link : Hf2Link β) (b : Board) (m : Machine) (untold : List UInt32) : Prop where
  isOpen : link.isOpen = true
  parts_eq : link.exchange.assembler.parts = b.sending
  machine_eq : b.machine = m
  command_eq : b.command = .empty
  untold_eq : placesTold link.events ++ b.untold = untold

/-- A link to a board that owes nothing. Before the board runs its application, no message of it is
unfinished. -/
structure Tuned (link : Hf2Link β) (options : Options) (view : β → Board) (slot : Slot)
    (m : Machine) (untold : List UInt32) : Prop extends link.Meets (view link.bus) m untold where
  options_eq : link.options = options
  slot_eq : link.exchange.slot = slot
  owed_eq : (view link.bus).owed = none
  whole : m.runs = false → (view link.bus).sending = []

/-- What becomes of the command under way when a board says what it owes. -/
inductive Awaits (slot : Slot) : Option Bytes → Slot → Prop where
  | nothing : Awaits slot none slot
  | answer {tag : UInt16} {command : UInt32} (reply : Bytes) (htag : tag < 0x8000)
    (hslot : slot = .waiting ⟨tag, command⟩) :
    Awaits slot (some (Answer.response tag 0 0 reply).bytes) (.answered (.ok reply))

/-- Takes a message in. -/
def hear (link : Hf2Link β) (message : Bytes) : Hf2Link β :=
  let (exchange, events) := { link.exchange with assembler := .empty }.dispatch message
  { link with exchange, events := link.events ++ events }

theorem hear_event (event : Event) (h : IsEventCode event.code) (link : Hf2Link β) :
    link.hear (Answer.event event).bytes =
      { link with
        exchange := { link.exchange with assembler := .empty }
        events := link.events ++ [event] } := by
  simp [hear, Exchange.dispatch, ofBytes_event h]

theorem hear_response {tag : UInt16} {command : UInt32} (htag : tag < 0x8000)
    (hslot : link.exchange.slot = .waiting ⟨tag, command⟩) (reply : Bytes) :
    link.hear (Answer.response tag 0 0 reply).bytes =
      { link with exchange := ⟨.empty, .answered (.ok reply)⟩ } := by
  simp [hear, Exchange.dispatch, ofBytes_response htag, Exchange.settle, hslot, Exchange.outcome]

/-- Whatever a board says, it is understood. -/
theorem Meets.hear {b said : Board} {message : Bytes} (h : link.Meets b m untold)
    (hmessage : b.Says message said) (hawaits : Awaits link.exchange.slot b.owed final) :
    (link.hear message).Meets said m untold ∧
      Awaits (link.hear message).exchange.slot said.owed final := by
  have huntold := h.untold_eq
  cases hmessage with
  | answer howed =>
    rw [howed] at hawaits
    cases hawaits with
    | answer reply htag hslot =>
      rw [hear_response htag hslot]
      exact ⟨⟨h.isOpen, rfl, h.machine_eq, h.command_eq, huntold⟩, .nothing⟩
  | @halt pc rest more hrest =>
    have hcode : IsEventCode Opcode.paused := by decide
    have hplace : haltPlace (wordBytes [pc] ++ more) = .ok pc :=
      haltPlace_eq_ok_iff.2 (List.prefix_append _ more)
    rw [hear_event ⟨Opcode.paused, _⟩ hcode]
    refine ⟨⟨h.isOpen, rfl, h.machine_eq, h.command_eq, ?_⟩, hawaits⟩
    rw [← huntold, hrest, placesTold_append]
    simp [placesTold, hplace, Except.toOption]
  | other event hcode hother =>
    rw [hear_event event hcode]
    refine ⟨⟨h.isOpen, rfl, h.machine_eq, h.command_eq, ?_⟩, hawaits⟩
    rw [← huntold, placesTold_append]
    simp [placesTold, hother]

theorem take_packet (link : Hf2Link β) (kind : PacketKind) {data : Bytes} (h : data.length < 64)
    (padding : Bytes) (rest : List Arrival) :
    link.take (.report (packet kind data ++ padding) :: rest) =
      match kind with
      | .inner =>
        { link with
          exchange :=
            { link.exchange with assembler := ⟨link.exchange.assembler.parts ++ data⟩ } }.take rest
      | .final => (link.hear (link.exchange.assembler.parts ++ data)).take rest
      | .serial _ => link.take rest := by
  have hpush := push_packet link.exchange.assembler kind h padding
  cases kind <;> simp [take, Exchange.feed, hpush, Hf2Link.hear]

/-- What a board sends is all understood, in whatever packets it comes. -/
theorem Meets.take {b b' : Board} {reports : List Bytes} (h : link.Meets b m untold)
    (hsends : b.Sends reports b') (hawaits : Awaits link.exchange.slot b.owed final) :
    (link.take (reports.map .report)).Meets b' m untold ∧
      (link.take (reports.map .report)).exchange.slot = final ∧ b'.owed = none ∧
      (m.runs = false → b'.sending = []) := by
  -- `Awaits` says what the slot will be in the end; only the answer that is owed changes the slot.
  induction hsends generalizing link with
  | stop howed hwhole =>
    rw [howed] at hawaits
    cases hawaits
    exact ⟨h, rfl, howed, h.machine_eq ▸ hwhole⟩
  | serial errors hdata padding _ ih =>
    rw [List.map_cons, take_packet link _ hdata]
    exact ih h hawaits
  | inner hdata padding _ ih =>
    rw [List.map_cons, take_packet link _ hdata]
    refine ih ⟨h.isOpen, ?_, h.machine_eq, h.command_eq, h.untold_eq⟩ hawaits
    exact congrArg (· ++ _) h.parts_eq
  | final hdata padding hmessage _ ih =>
    rw [List.map_cons, take_packet link _ hdata]
    rw [← h.parts_eq] at hmessage
    obtain ⟨hheard, hnext⟩ := h.hear hmessage hawaits
    exact ih hheard hnext

variable [UsbBus β]

/-- To listen is to let the board say what it owes. -/
theorem Meets.listen (hboard : IsBoard options view) (h : link.Meets (view link.bus) m untold)
    (hawaits : Awaits link.exchange.slot (view link.bus).owed final)
    (hoptions : link.options = options) : link.listen.Tuned options view final m untold := by
  obtain ⟨reports, bus, hreceive, hsends⟩ := hboard.sends link.bus
  have hlisten : link.listen = ({ link with bus } : Hf2Link β).take (reports.map .report) := by
    unfold Hf2Link.listen
    rw [if_pos h.isOpen, hreceive]
  have hstart : ({ link with bus } : Hf2Link β).Meets (view link.bus) m untold :=
    ⟨h.isOpen, h.parts_eq, h.machine_eq, h.command_eq, h.untold_eq⟩
  obtain ⟨hmeets, hslot, howed, hwhole⟩ := hstart.take hsends hawaits
  obtain ⟨hbus, -, hkept⟩ := take_keeps ({ link with bus } : Hf2Link β) (reports.map .report)
  rw [hlisten]
  refine ⟨?_, hkept.trans hoptions, hslot, ?_, ?_⟩ <;> rw [hbus]
  · exact hmeets
  · exact howed
  · exact hwhole

theorem Tuned.listen (hboard : IsBoard options view) (h : link.Tuned options view slot m untold) :
    link.listen.Tuned options view slot m untold := by
  refine h.toMeets.listen hboard ?_ h.options_eq
  rw [h.owed_eq, h.slot_eq]
  exact .nothing

/-- What is written reaches the board. -/
theorem exists_writeReports (hboard : IsBoard options view) (bus : β) (reports : List Bytes) :
    ∃ bus', writeReports bus reports = (.ok (), bus') ∧
      view bus' = reports.foldl Board.accept (view bus) := by
  induction reports generalizing bus with
  | nil => exact ⟨bus, rfl, rfl⟩
  | cons report reports ih =>
    obtain ⟨next, hwrite, hview⟩ := hboard.writes bus report
    obtain ⟨bus', hwrites, hviews⟩ := ih next
    refine ⟨bus', ?_, ?_⟩
    · simp only [writeReports, hwrite]
      exact hwrites
    · rw [hviews, hview, List.foldl_cons]

/-- A command reaches the board as it was meant. -/
theorem Tuned.send (hboard : IsBoard options view) (h : link.Tuned options view slot m untold)
    (command : UInt32) (tag : UInt16) (payload : Bytes) :
    ∃ bus, link.send (commandMessage command tag payload) = (.ok (), { link with bus }) ∧
      view bus = (view link.bus).obey ⟨command, tag, payload⟩ := by
  obtain ⟨bus, hwrite, hview⟩ :=
    exists_writeReports hboard link.bus (outputReports (commandMessage command tag payload))
  refine ⟨bus, ?_, ?_⟩
  · unfold Hf2Link.send
    rw [if_pos h.isOpen, hwrite]
    rfl
  · rw [hview, Board.accept_outputReports h.command_eq]

/-- A command that the board answers. -/
theorem Tuned.ask (hboard : IsBoard options view) (h : link.Tuned options view .free m untold)
    {command : UInt32} {payload : Bytes} {effect : Effect}
    (hserve : m.serve command payload = some effect) :
    ∃ link', link.ask command payload = (.ok effect.reply, link') ∧
      link'.Tuned options view .free effect.machine (untold ++ effect.halts) := by
  let tag := link.nextTag &&& 0x7fff
  have hwaits : (link.after (.request command)).Tuned options view (.waiting ⟨tag, command⟩) m
      untold := { h with slot_eq := rfl }
  obtain ⟨bus, hsend, hview⟩ := hwaits.send hboard command tag payload
  -- The board has taken the command, and the link has not listened yet.
  let sent : Hf2Link β := { link.after (.request command) with bus }
  have hsent : link.asking command payload = (.ok (), sent) := hsend
  have hobey : view bus = { view link.bus with
      machine := effect.machine
      untold := (view link.bus).untold ++ effect.halts
      owed := some (Answer.response tag 0 0 effect.reply).bytes } := by
    have hmachine : (view (link.after (.request command)).bus).machine = m := hwaits.machine_eq
    rw [hview, Board.obey, hmachine, hserve]
    rfl
  have hmeets : sent.Meets (view bus) effect.machine (untold ++ effect.halts) := by
    rw [hobey, ← h.untold_eq, List.append_assoc]
    exact ⟨h.isOpen, h.parts_eq, rfl, h.command_eq, rfl⟩
  have hawaits : Awaits sent.exchange.slot (view bus).owed (.answered (.ok effect.reply)) := by
    rw [hobey]
    exact .answer effect.reply (tag_lt _) rfl
  have hlistened := hmeets.listen hboard hawaits h.options_eq
  have hconclude : sent.listen.conclude command =
      (.ok effect.reply, { sent.listen with exchange := sent.listen.exchange.release }) := by
    simp only [conclude, hlistened.slot_eq]
  rw [ask_eq, hsent]
  exact ⟨_, hconclude, { hlistened with slot_eq := rfl }⟩

/-- A command that the board does not answer. -/
theorem Tuned.tell (hboard : IsBoard options view) (h : link.Tuned options view .free m untold)
    (hruns : m.runs = false) {command : UInt32} (hserve : m.serve command [] = none) :
    ∃ link', link.tell command = (.ok (), link') ∧
      link'.Tuned options view .free (m.order command) untold := by
  have htag : link.takeTag.2.Tuned options view .free m untold := { h with }
  obtain ⟨bus, hsend, hview⟩ := htag.send hboard command link.takeTag.1 []
  have hobey : view bus = { view link.bus with machine := m.order command } := by
    have hmachine : (view link.takeTag.2.bus).machine = m := htag.machine_eq
    rw [hview, Board.obey, hmachine, hserve]
    rfl
  refine ⟨_, hsend, ?_⟩
  refine ⟨⟨h.isOpen, ?_, ?_, ?_, ?_⟩, h.options_eq, h.slot_eq, ?_, fun _ => ?_⟩ <;>
    rw [hobey]
  · exact h.parts_eq
  · exact h.command_eq
  · exact h.untold_eq
  · exact h.owed_eq
  · exact h.whole hruns

/-- Whoever opens the board has nothing unfinished. -/
theorem tuned_opened (link : Hf2Link β) (hboard : IsBoard options view) {device : UsbDevice}
    {bus bus' : β}
    (hopen : UsbBus.openDevice bus device = .ok bus') (hmachine : (view bus).machine = m)
    (huntold : placesTold link.events ++ (view bus).untold = untold)
    (hoptions : link.options = options) (hslot : link.exchange.slot = .free)
    (hparts : link.exchange.assembler.parts = []) :
    ({ link with bus := bus', isOpen := true } : Hf2Link β).Tuned options view .free m.opened
      (untold ++ m.openedHalts) := by
  have hview := hboard.opens bus bus' device hopen
  refine ⟨⟨rfl, ?_, ?_, ?_, ?_⟩, hoptions, hslot, ?_, fun _ => ?_⟩ <;> rw [hview]
  · exact hparts
  · rw [← hmachine]
    rfl
  · rfl
  · rw [← huntold, List.append_assoc, ← hmachine]
    rfl
  · rfl
  · rfl

/-- The board comes back after a reset. -/
theorem Tuned.reopen (hboard : IsBoard options view) (h : link.Tuned options view .free m untold)
    (hruns : m.runs = false) :
    ∃ link', link.reopen = (.ok (), link') ∧
      link'.Tuned options view .free m.opened (untold ++ m.openedHalts) := by
  obtain ⟨bus, hopen⟩ := hboard.returns link.bus
  obtain ⟨device, hdevice⟩ := exists_openDevice hopen
  refine ⟨{ link with bus, isOpen := true }, ?_, ?_⟩
  · have hpatient := Nat.not_le.2 hboard.patient
    rw [← h.options_eq] at hpatient hopen
    unfold Hf2Link.reopen
    simp only [hpatient, if_false, hopen]
  · exact tuned_opened link hboard hdevice h.machine_eq h.untold_eq h.options_eq h.slot_eq
      (h.parts_eq.trans (h.whole hruns))

/-- A new connection to a board that is not about to run its application. -/
theorem tuned_connect (hboard : IsBoard options view) {bus : β}
    (hconnect : connect options bus = .ok link) (hmachine : (view bus).machine = m)
    (huntold : (view bus).untold = []) (hboots : m.boots = false) :
    link.Tuned options view .free m [] ∧ link.events = [] := by
  unfold connect at hconnect
  cases hopen : openDevice options bus with
  | error error =>
    rw [hopen] at hconnect
    cases hconnect
  | ok bus' =>
    rw [hopen] at hconnect
    cases hconnect
    obtain ⟨device, hdevice⟩ := exists_openDevice hopen
    -- Opening a board starts its application only after a reset into that.
    have hopened : m.opened = m ∧ m.openedHalts = [] := by
      simp [Machine.opened, Machine.openedHalts, hboots]
    have htuned := tuned_opened ⟨options, bus, true, 1, .idle, []⟩ hboard hdevice hmachine huntold
      rfl rfl rfl
    rw [hopened.1, hopened.2] at htuned
    have hlistened := htuned.listen hboard
    exact ⟨{ hlistened with untold_eq := (List.append_eq_nil_iff.1 hlistened.untold_eq).2 }, rfl⟩

end Hf2Link

end BoardDebug
