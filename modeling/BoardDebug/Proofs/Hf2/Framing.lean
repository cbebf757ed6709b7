import BoardDebug.Hf2.Link
import BoardDebug.Hf2.Packet
import BoardDebug.Usb.Scripted

namespace BoardDebug

section Chunks

variable {α : Type} {size : Nat} {list piece : List α}

theorem flatten_pieces (hsize : 0 < size) {count : Nat} (h : list.length ≤ count) :
    (pieces size count list).flatten = list := by
  induction count generalizing list with
  | zero =>
    obtain rfl := List.length_eq_zero_iff.1 (Nat.le_zero.1 h)
    rfl
  | succ count ih =>
    cases list with
    | nil => rfl
    | cons first rest =>
      have hrest : ((first :: rest).drop size).length ≤ count := by
        rw [List.length_drop]
        omega
      rw [pieces, List.flatten_cons, ih hrest, List.take_append_drop]
      simp

theorem flatten_chunks (hsize : 0 < size) (list : List α) : (chunks size list).flatten = list :=
  flatten_pieces hsize (Nat.le_refl _)

theorem length_le_of_mem_chunks (h : piece ∈ chunks size list) : piece.length ≤ size := by
  have hall : ∀ count (list : List α), piece ∈ pieces size count list → piece.length ≤ size := by
    intro count
    induction count with
    | zero => simp [pieces]
    | succ count ih =>
      intro list hpiece
      cases list with
      | nil => simp [pieces] at hpiece
      | cons first rest =>
        rw [pieces] at hpiece
        · obtain rfl | hpiece := List.mem_cons.1 hpiece
          · exact List.length_take_le _ _
          · exact ih _ hpiece
        · simp
  exact hall _ _ h

theorem length_pieces (hsize : 0 < size) {count : Nat} (h : list.length ≤ count) :
    (pieces size count list).length = (list.length + (size - 1)) / size := by
  have hnone : (0 + (size - 1)) / size = 0 := Nat.div_eq_of_lt (by omega)
  induction count generalizing list with
  | zero =>
    obtain rfl := List.length_eq_zero_iff.1 (Nat.le_zero.1 h)
    exact hnone.symm
  | succ count ih =>
    cases list with
    | nil => exact hnone.symm
    | cons first rest =>
      have hrest : ((first :: rest).drop size).length ≤ count := by
        rw [List.length_drop]
        omega
      rw [pieces, List.length_cons, ih hrest, List.length_drop]
      · -- The first piece is whole, or it is the only one.
        have hpos : 0 < (first :: rest).length := Nat.succ_pos _
        generalize (first :: rest).length = length at hpos ⊢
        obtain hlt | hle := Nat.lt_or_ge length size
        · have hone : (length + (size - 1)) / size = 1 :=
            Nat.div_eq_of_lt_le (by omega) (by omega)
          rw [Nat.sub_eq_zero_of_le (Nat.le_of_lt hlt), hnone, hone]
        · rw [← Nat.add_div_right _ hsize]
          congr 1
          omega
      · simp

/-- The number of pieces of a list, of which only the last one may be short. -/
theorem length_chunks (hsize : 0 < size) (list : List α) :
    (chunks size list).length = (list.length + (size - 1)) / size :=
  length_pieces hsize (Nat.le_refl _)

theorem chunks_ne_nil (h : list ≠ []) : chunks size list ≠ [] := by
  obtain ⟨first, rest, rfl⟩ := List.exists_cons_of_ne_nil h
  simp [chunks, pieces]

end Chunks

namespace Hf2

/-- A header tells the kind of its packet and the number of its bytes. -/
theorem header_eq (kind : PacketKind) {length : Nat} (h : length < 64) :
    (kind.bits + .ofNat length).toNat % 64 = length ∧
      PacketKind.ofHeader (kind.bits + .ofNat length) = kind := by
  have hall : ∀ n : Fin 64, (kind.bits + .ofNat n.val).toNat % 64 = n.val ∧
      PacketKind.ofHeader (kind.bits + .ofNat n.val) = kind := by
    rcases kind with _ | _ | ⟨_ | _⟩ <;> decide
  exact hall ⟨length, h⟩

/-- The kind of the packet that a report holds; an empty report holds none. -/
def kind? (report : Bytes) : Option PacketKind :=
  report.head?.map PacketKind.ofHeader

/-- The number of bytes that a report announces. -/
def announced (report : Bytes) : Nat :=
  (report.head?.map fun header => header.toNat % 64).getD 0

/-- It announces more bytes than it holds. -/
def IsMalformed (report : Bytes) : Prop :=
  report.tail.length < announced report

instance (report : Bytes) : Decidable (IsMalformed report) :=
  inferInstanceAs (Decidable (_ < _))

/-- A packet is read as it was written, whatever it is filled up with. -/
theorem push_packet (a : Assembler) (kind : PacketKind) {data : Bytes} (h : data.length < 64)
    (padding : Bytes) :
    a.push (packet kind data ++ padding) =
      match kind with
      | .inner => .ok (none, ⟨a.parts ++ data⟩)
      | .final => .ok (some (.message (a.parts ++ data)), .empty)
      | .serial errors => .ok (some (.serial errors data), a) := by
  obtain ⟨hlength, hkind⟩ := header_eq kind h
  have hshort : ¬(data ++ padding).length < data.length := by simp
  have htake : (data ++ padding).take data.length = data := List.take_left
  rw [packet, List.cons_append, Assembler.push]
  cases kind <;> simp only [hlength, hkind, if_neg hshort, htake]

theorem halfWord_bytes (word : UInt16) :
    halfWord (.ofNat word.toNat) (.ofNat (word.toNat / 256)) = word := by
  apply UInt16.toNat_inj.1
  have hlt := word.toNat_lt
  simp only [halfWord, Word.ofNat_toNat, UInt16.toNat_ofNat']
  omega

/-- A command is read as it was sent. -/
theorem readCommand?_commandMessage (command : UInt32) (tag : UInt16) (payload : Bytes) :
    ScriptedBus.readCommand? (commandMessage command tag payload) =
      some ⟨command, tag, payload⟩ := by
  change some (SentCommand.mk (Word.ofBytes _ _ _ _) (halfWord _ _) payload) = _
  rw [Word.ofBytes_bytes, halfWord_bytes]

theorem ofBytes_response {tag : UInt16} (htag : tag < 0x8000) (status info : UInt8)
    (payload : Bytes) : Answer.ofBytes (Answer.response tag status info payload).bytes =
      .ok (.response tag status info payload) := by
  have hhigh : UInt8.ofNat (tag.toNat / 256) < 0x80 := by
    have hlt : tag.toNat < 0x8000 := htag
    rw [UInt8.lt_iff_toNat_lt, Word.ofNat_toNat]
    change _ < 128
    omega
  change (if UInt8.ofNat (tag.toNat / 256) < 0x80 then
    Except.ok (Answer.response (halfWord _ _) status info payload) else _) = _
  rw [if_pos hhigh, halfWord_bytes]

/-- A code with which a device can send an event: it does not look like the tag of a command. -/
def IsEventCode (code : UInt32) : Prop :=
  0x80 ≤ UInt8.ofNat (code.toNat / 256)

instance (code : UInt32) : Decidable (IsEventCode code) :=
  inferInstanceAs (Decidable (0x80 ≤ UInt8.ofNat (code.toNat / 256)))

theorem ofBytes_event {event : Event} (h : IsEventCode event.code) :
    Answer.ofBytes (Answer.event event).bytes = .ok (.event event) := by
  have hhigh : ¬UInt8.ofNat (event.code.toNat / 256) < 0x80 := UInt8.not_lt.2 h
  change (if UInt8.ofNat (event.code.toNat / 256) < 0x80 then _ else
    Except.ok (Answer.event ⟨Word.ofBytes _ _ _ _, event.payload⟩)) = _
  rw [if_neg hhigh, Word.ofBytes_bytes]

/-- What a message can be read as: bit 15 tells an event from a response. -/
def Answer.IsLegible : Answer → Prop
  | response tag _ _ _ => tag < 0x8000
  | event e => e.code.toNat.testBit 15

theorem isEventCode_iff {code : UInt32} : IsEventCode code ↔ code.toNat.testBit 15 := by
  have hbyte : (0x80 : UInt8).toNat = 128 := rfl
  rw [IsEventCode, UInt8.le_iff_toNat_le, Word.ofNat_toNat, hbyte, Nat.testBit_eq_decide_div_mod_eq,
    decide_eq_true_iff]
  omega

/-- The top bit of the second byte is bit 15 of the half-word. -/
theorem high_lt_iff (a b : UInt8) : b < 0x80 ↔ ¬(halfWord a b).toNat.testBit 15 := by
  have ha := a.toNat_lt
  have hb := b.toNat_lt
  have hbyte : (0x80 : UInt8).toNat = 128 := rfl
  rw [UInt8.lt_iff_toNat_lt, hbyte, Nat.testBit_eq_decide_div_mod_eq, decide_eq_true_iff, halfWord,
    UInt16.toNat_ofNat']
  omega

theorem tag_lt_iff {tag : UInt16} : tag < 0x8000 ↔ ¬tag.toNat.testBit 15 := by
  have hlt := tag.toNat_lt
  have hbound : (0x8000 : UInt16).toNat = 32768 := rfl
  rw [UInt16.lt_iff_toNat_lt, hbound, Nat.testBit_eq_decide_div_mod_eq, decide_eq_true_iff]
  omega

theorem testBit_ofBytes (a b c d : UInt8) :
    (Word.ofBytes a b c d).toNat.testBit 15 = (halfWord a b).toNat.testBit 15 := by
  have ha := a.toNat_lt
  have hb := b.toNat_lt
  have hc := c.toNat_lt
  have hd := d.toNat_lt
  rw [Nat.testBit_eq_decide_div_mod_eq, Nat.testBit_eq_decide_div_mod_eq, Word.ofBytes, halfWord,
    UInt32.toNat_ofNat', UInt16.toNat_ofNat']
  congr 2
  omega

theorem bytes_halfWord (a b : UInt8) : halfWordBytes (halfWord a b) = [a, b] := by
  have ha := a.toNat_lt
  have hb := b.toNat_lt
  simp only [halfWordBytes, halfWord, UInt16.toNat_ofNat', List.cons.injEq, and_true]
  refine ⟨?_, ?_⟩ <;> apply UInt8.toNat_inj.1 <;> rw [Word.ofNat_toNat] <;> omega

/-- A message with a header is an event or a response. -/
theorem ofBytes_cons (a b c d : UInt8) (payload : Bytes) :
    Answer.ofBytes (a :: b :: c :: d :: payload) =
      if (halfWord a b).toNat.testBit 15 then .ok (.event ⟨Word.ofBytes a b c d, payload⟩)
      else .ok (.response (halfWord a b) c d payload) := by
  rw [Answer.ofBytes]
  by_cases hhigh : b < 0x80
  · rw [if_pos hhigh, if_neg ((high_lt_iff a b).1 hhigh)]
  · have hevent : (halfWord a b).toNat.testBit 15 := by
      simpa [high_lt_iff a b] using hhigh
    rw [if_neg hhigh, if_pos hevent]

theorem ofBytes_of_short {bytes : Bytes} (h : bytes.length < 4) :
    Answer.ofBytes bytes = .error (.headless bytes.length) := by
  match bytes with
  | [] | [_] | [_, _] | [_, _, _] => rfl
  | _ :: _ :: _ :: _ :: _ => simp at h; omega

/-- An answer is read off exactly one message, the one that it is written as. -/
theorem ofBytes_eq_ok {bytes : Bytes} {answer : Answer} :
    Answer.ofBytes bytes = .ok answer ↔ answer.IsLegible ∧ answer.bytes = bytes := by
  constructor
  · intro h
    match bytes with
    | [] | [_] | [_, _] | [_, _, _] => cases h
    | a :: b :: c :: d :: payload =>
      rw [ofBytes_cons] at h
      split at h
      case isTrue hevent =>
        cases h
        refine ⟨?_, by rw [Answer.bytes, Word.bytes_ofBytes]; rfl⟩
        exact (testBit_ofBytes a b c d).trans hevent
      case isFalse hresponse =>
        cases h
        refine ⟨?_, by rw [Answer.bytes, bytes_halfWord]; rfl⟩
        exact tag_lt_iff.2 hresponse
  · rintro ⟨hlegible, rfl⟩
    cases answer with
    | response tag status info payload => exact ofBytes_response hlegible status info payload
    | event e => exact ofBytes_event (isEventCode_iff.2 hlegible)

/-- The tag of a command never has the top bit. -/
theorem tag_lt (tag : UInt16) : tag &&& 0x7fff < 0x8000 := by
  have hmask : (0x7fff : UInt16).toNat = 2 ^ 15 - 1 := rfl
  rw [UInt16.lt_iff_toNat_lt, UInt16.toNat_and, hmask, Nat.and_two_pow_sub_one_eq_mod]
  exact Nat.mod_lt _ (by decide)

/-- Messages with a header and what they are read as correspond to each other one to one: bit 15 of
the first half-word tells which of the two layouts counts, a shorter message is refused, and no
response to a command can be taken for an event. -/
theorem ofBytes_bijection :
    (∀ bytes, Answer.ofBytes bytes = .error (.headless bytes.length) ↔ bytes.length < 4) ∧
    (∀ a b c d payload, Answer.ofBytes (a :: b :: c :: d :: payload) =
      if (halfWord a b).toNat.testBit 15 then .ok (.event ⟨Word.ofBytes a b c d, payload⟩)
      else .ok (.response (halfWord a b) c d payload)) ∧
    (∀ bytes answer, Answer.ofBytes bytes = .ok answer ↔
      answer.IsLegible ∧ answer.bytes = bytes) ∧
    ∀ {β : Type} (link : Hf2Link β) (status info : UInt8) (payload : Bytes),
      Answer.ofBytes (Answer.response link.takeTag.1 status info payload).bytes =
        .ok (.response link.takeTag.1 status info payload) := by
  refine ⟨fun bytes => ⟨fun h => ?_, ofBytes_of_short⟩, ofBytes_cons,
    fun _ _ => ofBytes_eq_ok, fun link => ofBytes_response (tag_lt link.nextTag)⟩
  match bytes with
  | [] | [_] | [_, _] | [_, _, _] => simp
  | a :: b :: c :: d :: payload =>
    rw [ofBytes_cons] at h
    split at h <;> cases h

end Hf2

/-- A command as a message. -/
def SentCommand.message (sent : SentCommand) : Bytes :=
  Hf2.commandMessage sent.command sent.tag sent.payload

namespace Hf2

/-- A report that is sent, with what it completes. -/
structure Signal where
  report : Bytes
  frame : Option Frame

/-- The reports of a message, without their numbers. The last of them completes it. -/
def signals (message : Bytes) : List Signal :=
  let reports := (outputReports message).map List.tail
  List.zipWith Signal.mk reports
    (List.replicate (reports.length - 1) none ++ [some (.message message)])

/-- What is sent when console output is put anywhere between other reports. -/
inductive Interleaved : List Signal → List Signal → Prop where
  | nil : Interleaved [] []
  | keep (signal : Signal) {sent mixed : List Signal} (h : Interleaved sent mixed) :
    Interleaved (signal :: sent) (signal :: mixed)
  | serial (errors : Bool) {data : Bytes} (hdata : data.length ≤ maxPayload) (padding : Bytes)
    {sent mixed : List Signal} (h : Interleaved sent mixed) :
    Interleaved sent
      (⟨packet (.serial errors) data ++ padding, some (.serial errors data)⟩ :: mixed)

def Frame.message? : Frame → Option Bytes
  | message bytes => some bytes
  | serial _ _ => none

namespace Assembler

/-- Takes reports in, one after the other: what each of them completes, and the assembler
after it. -/
def pushAll (a : Assembler) : List Bytes → Except Malformed (List (Option Frame × Assembler))
  | [] => .ok []
  | report :: rest => do
    let pushed ← a.push report
    let later ← pushed.2.pushAll rest
    return pushed :: later

/-- Each report completes what it is sent for, and a message leaves nothing behind. -/
inductive Takes : Assembler → List Signal → Prop where
  | nil (a : Assembler) : Takes a []
  | cons {a next : Assembler} {signal : Signal} {rest : List Signal}
    (hpush : a.push signal.report = .ok (signal.frame, next))
    (hempty : (signal.frame.bind Frame.message?).isSome → next = .empty)
    (hrest : Takes next rest) : Takes a (signal :: rest)

variable {a : Assembler} {sent mixed : List Signal}

/-- Console output changes nothing for the reports around it. -/
theorem Takes.interleaved (h : a.Takes sent) (hmixed : Interleaved sent mixed) : a.Takes mixed := by
  induction hmixed generalizing a with
  | nil => exact h
  | keep signal _ ih =>
    cases h with
    | cons hpush hempty hrest => exact .cons hpush hempty (ih hrest)
  | serial errors hdata padding _ ih =>
    exact .cons (push_packet a _ (Nat.lt_succ_of_le hdata) padding) nofun (ih h)

theorem Takes.pushAll (h : a.Takes sent) : ∃ states,
    a.pushAll (sent.map (·.report)) = .ok states ∧ states.map (·.1) = sent.map (·.frame) ∧
      ∀ state ∈ states, (state.1.bind Frame.message?).isSome → state.2 = .empty := by
  induction h with
  | nil a => exact ⟨[], rfl, rfl, by simp⟩
  | @cons a next signal rest hpush hempty _ ih =>
    obtain ⟨states, hstates, hframes, hall⟩ := ih
    refine ⟨(signal.frame, next) :: states, ?_, ?_, List.forall_mem_cons.2 ⟨hempty, hall⟩⟩
    · simp only [List.map_cons, Assembler.pushAll, hpush, hstates, bind, Except.bind, pure,
        Except.pure]
    · rw [List.map_cons, List.map_cons, hframes]

/-- A message may be taken in any parts, behind those that are there already. -/
theorem takes_packets {parts : List Bytes} {message : Bytes} (hparts : parts ≠ [])
    (hlength : ∀ part ∈ parts, part.length < 64) (hmessage : a.parts ++ parts.flatten = message)
    (hrest : empty.Takes sent) :
    a.Takes (List.zipWith Signal.mk (((packets parts).map outputReport).map List.tail)
      (List.replicate (parts.length - 1) none ++ [some (.message message)]) ++ sent) := by
  -- The last part is the final packet, so the induction distinguishes one part and several.
  induction parts generalizing a with
  | nil => exact absurd rfl hparts
  | cons part parts ih =>
    obtain ⟨hpart, hothers⟩ := List.forall_mem_cons.1 hlength
    cases parts with
    | nil =>
      rw [List.flatten_singleton] at hmessage
      subst hmessage
      exact .cons (push_packet a .final hpart _) (fun _ => rfl) hrest
    | cons next parts =>
      rw [List.flatten_cons, ← List.append_assoc] at hmessage
      exact .cons (push_packet a .inner hpart _) nofun (ih (by simp) hothers hmessage)

end Assembler

/-! What a message is sent as. -/

theorem length_packets (parts : List Bytes) : (packets parts).length = parts.length := by
  induction parts with
  | nil => rfl
  | cons part parts ih =>
    cases parts with
    | nil => rfl
    | cons next parts =>
      simpa [packets] using ih

theorem exists_part_of_mem_packets {parts : List Bytes} {report : Bytes}
    (h : report ∈ packets parts) : ∃ kind, ∃ part ∈ parts, report = packet kind part := by
  induction parts with
  | nil => cases h
  | cons part parts ih =>
    cases parts with
    | nil => exact ⟨.final, part, List.mem_cons_self, List.mem_singleton.1 h⟩
    | cons next parts =>
      rw [packets] at h
      · obtain rfl | hmem := List.mem_cons.1 h
        · exact ⟨.inner, part, List.mem_cons_self, rfl⟩
        · obtain ⟨kind, part, hpart, rfl⟩ := ih hmem
          exact ⟨kind, part, List.mem_cons_of_mem _ hpart, rfl⟩
      · simp

theorem length_outputReports (message : Bytes) :
    (outputReports message).length = (message.length + 62) / 63 := by
  unfold outputReports
  rw [List.length_map, length_packets, length_chunks (by decide)]
  rfl

theorem outputReports_ne_nil {message : Bytes} (h : message ≠ []) :
    (outputReports message).length ≠ 0 := by
  have hpos := List.length_pos_iff.2 h
  rw [length_outputReports]
  omega

/-- A report has the size of all reports, and holds what it announces. -/
theorem shape_of_mem_outputReports {message report : Bytes} (h : report ∈ outputReports message) :
    report.length = reportSize + 1 ∧ report.head? = some 0 ∧
      announced report.tail ≤ maxPayload ∧ ¬IsMalformed report.tail := by
  obtain ⟨sent, hsent, rfl⟩ := List.mem_map.1 h
  obtain ⟨kind, part, hpart, rfl⟩ := exists_part_of_mem_packets hsent
  have hlength : part.length ≤ maxPayload := length_le_of_mem_chunks hpart
  have hannounced : announced (outputReport (packet kind part)).tail = part.length :=
    (header_eq kind (Nat.lt_succ_of_le hlength)).1
  have hpacket : (packet kind part).length = part.length + 1 := rfl
  have hsize : reportSize = maxPayload + 1 := rfl
  refine ⟨?_, rfl, hannounced ▸ hlength, ?_⟩
  · rw [outputReport, List.cons_append, List.length_cons, List.length_append, List.length_replicate]
    omega
  · rw [IsMalformed, hannounced]
    simp [outputReport, packet]

theorem map_report_signals {message : Bytes} (h : message ≠ []) :
    (signals message).map (·.report) = (outputReports message).map List.tail := by
  have hne := outputReports_ne_nil h
  rw [signals, List.map_zipWith]
  refine (List.map_uncurry_zip_eq_zipWith ..).symm.trans (List.map_fst_zip ?_)
  simp
  omega

theorem map_frame_signals {message : Bytes} (h : message ≠ []) :
    (signals message).map (·.frame) =
      List.replicate ((outputReports message).length - 1) none ++ [some (.message message)] := by
  have hne := outputReports_ne_nil h
  rw [signals, List.map_zipWith, List.length_map]
  refine (List.map_uncurry_zip_eq_zipWith ..).symm.trans (List.map_snd_zip ?_)
  simp
  omega

/-- The messages among frames. -/
def received (frames : List (Option Frame)) : List Bytes :=
  frames.filterMap fun frame => frame.bind Frame.message?

theorem received_append (frames later : List (Option Frame)) :
    received (frames ++ later) = received frames ++ received later :=
  List.filterMap_append

theorem received_signals {messages : List Bytes} (h : ∀ message ∈ messages, message ≠ []) :
    received ((messages.flatMap signals).map (·.frame)) = messages := by
  induction messages with
  | nil => rfl
  | cons message messages ih =>
    obtain ⟨hmessage, hmessages⟩ := List.forall_mem_cons.1 h
    have hnone (count : Nat) : received (List.replicate count none) = [] :=
      List.filterMap_replicate_of_none rfl
    rw [List.flatMap_cons, List.map_append, received_append, ih hmessages,
      map_frame_signals hmessage, received_append, hnone]
    rfl

theorem Interleaved.received_eq {sent mixed : List Signal} (h : Interleaved sent mixed) :
    received (mixed.map (·.frame)) = received (sent.map (·.frame)) := by
  induction h with
  | nil => rfl
  | keep signal _ ih =>
    simp only [received, List.map_cons, List.filterMap_cons] at ih ⊢
    rw [ih]
  | serial errors hdata padding _ ih => exact ih

theorem takes_signals {messages : List Bytes} (h : ∀ message ∈ messages, message ≠ []) :
    Assembler.empty.Takes (messages.flatMap signals) := by
  induction messages with
  | nil => exact .nil _
  | cons message messages ih =>
    obtain ⟨hmessage, hmessages⟩ := List.forall_mem_cons.1 h
    have hlength : ((outputReports message).map List.tail).length =
        (chunks maxPayload message).length := by
      rw [List.length_map, outputReports, List.length_map, length_packets]
    rw [List.flatMap_cons, signals, hlength]
    exact Assembler.takes_packets (chunks_ne_nil hmessage)
      (fun part hpart => Nat.lt_succ_of_le (length_le_of_mem_chunks hpart))
      (flatten_chunks (by decide) message) (ih hmessages)

/-- What is sent in reports is received, whatever console output there is in between. -/
theorem interleaved_received {messages : List Bytes}
    (hmessages : ∀ message ∈ messages, message ≠ []) {mixed : List Signal}
    (hmixed : Interleaved (messages.flatMap signals) mixed) :
    (∀ message ∈ messages,
      (signals message).map (·.report) = (outputReports message).map List.tail ∧
      (signals message).map (·.frame) =
        List.replicate ((outputReports message).length - 1) none ++ [some (.message message)]) ∧
    (∃ states, Assembler.empty.pushAll (mixed.map (·.report)) = .ok states ∧
      states.map (·.1) = mixed.map (·.frame) ∧
      (∀ state ∈ states, (state.1.bind Frame.message?).isSome → state.2 = .empty) ∧
      received (states.map (·.1)) = messages ∧
      ∀ requests : List SentCommand, messages = requests.map (·.message) →
        (received (states.map (·.1))).filterMap ScriptedBus.readCommand? = requests) ∧
    ∀ message, (outputReports message).length = (message.length + 62) / 63 ∧
      ∀ report ∈ outputReports message, report.length = reportSize + 1 ∧ report.head? = some 0 ∧
        announced report.tail ≤ maxPayload ∧ ¬IsMalformed report.tail := by
  refine ⟨fun message hmessage => ?_, ?_, fun message => ?_⟩
  · exact ⟨map_report_signals (hmessages message hmessage),
      map_frame_signals (hmessages message hmessage)⟩
  · obtain ⟨states, hpush, hframes, hempty⟩ :=
      ((takes_signals hmessages).interleaved hmixed).pushAll
    have hreceived : received (states.map (·.1)) = messages := by
      rw [hframes, hmixed.received_eq, received_signals hmessages]
    refine ⟨states, hpush, hframes, hempty, hreceived, ?_⟩
    rintro requests rfl
    have hread (sent : SentCommand) : ScriptedBus.readCommand? sent.message = some sent :=
      readCommand?_commandMessage sent.command sent.tag sent.payload
    rw [hreceived, List.filterMap_map]
    simp [Function.comp_def, hread]
  · exact ⟨length_outputReports message, fun report => shape_of_mem_outputReports⟩

/-- Two commands, the first of them in two reports, around which a device prints something. -/
theorem interleaved_received_pair :
    let requests : List SentCommand := [⟨9, 1, List.replicate 70 7⟩, ⟨1, 2, []⟩]
    let messages := requests.map (·.message)
    ∃ mixed states, Interleaved (messages.flatMap signals) mixed ∧ mixed.length = 5 ∧
      Assembler.empty.pushAll (mixed.map (·.report)) = .ok states ∧
      (received (states.map (·.1))).filterMap ScriptedBus.readCommand? = requests := by
  intro requests messages
  have hmessages : ∀ message ∈ messages, message ≠ [] := by decide
  have hmixed : Interleaved (messages.flatMap signals) _ :=
    .keep _ (@Interleaved.serial true [0x68, 0x69] (by decide) [0] _ _ (.keep _ (.keep _
      (@Interleaved.serial false [] (by decide) [] _ _ .nil))))
  obtain ⟨-, ⟨states, hpush, -, -, -, hrequests⟩, -⟩ := interleaved_received hmessages hmixed
  exact ⟨_, states, hmixed, rfl, hpush, hrequests requests rfl⟩

end Hf2

end BoardDebug
