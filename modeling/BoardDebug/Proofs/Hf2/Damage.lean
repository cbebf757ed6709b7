import BoardDebug.Proofs.Hf2.Framing
import BoardDebug.Proofs.Hf2.Reconnection
import Mathlib.Data.List.DropRight

namespace BoardDebug

namespace Hf2

def IsFinal (report : Bytes) : Prop :=
  kind? report = some .final

def IsSerial (report : Bytes) : Prop :=
  ∃ errors, kind? report = some (.serial errors)

instance (report : Bytes) : Decidable (IsFinal report) :=
  inferInstanceAs (Decidable (_ = _))

/-- The bytes that a report adds to a message. Console output adds none. -/
def part (report : Bytes) : Bytes :=
  match kind? report with
  | some .inner => report.tail.take (announced report)
  | some .final => report.tail.take (announced report)
  | _ => []

/-- What reports add to a message. -/
def parts (reports : List Bytes) : Bytes :=
  reports.flatMap part

/-- The last reports, which come after all final packets: those of the message that is under way. A
malformed final packet ends its message as well, since nothing of that is still to come. -/
def sinceFinal (reports : List Bytes) : List Bytes :=
  reports.rtakeWhile fun report => decide (¬IsFinal report)

/-- The last reports, which come after all malformed ones. -/
def sinceMalformed (reports : List Bytes) : List Bytes :=
  reports.rtakeWhile fun report => decide (¬IsMalformed report)

/-- The report `last`, after the reports `before`, completes a message, and this is the whole
message: none of its packets was malformed. -/
structure IsWhole (before : List Bytes) (last message : Bytes) : Prop where
  sound : ∀ report ∈ sinceFinal before ++ [last], IsMalformed report → IsSerial report
  message_eq : message = parts (sinceFinal before ++ [last])

/-- A message that is under way has lost nothing: what is malformed among its reports is console
output, and came before its first byte. -/
def IsIntact (reports : List Bytes) : Prop :=
  ∀ earlier damaged later, reports = earlier ++ damaged :: later → IsMalformed damaged →
    IsSerial damaged ∧ parts earlier = []

theorem part_of_serial {report : Bytes} (h : IsSerial report) : part report = [] := by
  obtain ⟨errors, h⟩ := h
  simp [part, h]

theorem parts_append (reports later : List Bytes) :
    parts (reports ++ later) = parts reports ++ parts later :=
  List.flatMap_append

theorem parts_cons (report : Bytes) (reports : List Bytes) :
    parts (report :: reports) = part report ++ parts reports :=
  List.flatMap_cons

/-- What came before a malformed report does not matter any more. -/
theorem sinceMalformed_append_cons {damaged : Bytes} (h : IsMalformed damaged)
    (earlier later : List Bytes) :
    sinceMalformed (earlier ++ damaged :: later) = sinceMalformed later := by
  unfold sinceMalformed
  induction later using List.reverseRecOn with
  | nil => exact List.rtakeWhile_concat_neg _ _ _ (by simpa using h)
  | append_singleton later report ih =>
    rw [← List.cons_append, ← List.append_assoc]
    by_cases hsound : IsMalformed report
    · rw [List.rtakeWhile_concat_neg _ _ _ (by simpa using hsound),
        List.rtakeWhile_concat_neg _ _ _ (by simpa using hsound)]
    · rw [List.rtakeWhile_concat_pos _ _ _ (by simpa using hsound),
        List.rtakeWhile_concat_pos _ _ _ (by simpa using hsound), ih]

/-- Reports of which one is malformed fall apart at the last of those. -/
theorem exists_last_malformed {reports : List Bytes} {report : Bytes} (hmem : report ∈ reports)
    (h : IsMalformed report) : ∃ earlier damaged,
      reports = earlier ++ damaged :: sinceMalformed reports ∧ IsMalformed damaged := by
  let sound (report : Bytes) : Bool := decide (¬IsMalformed report)
  have hne : reports.rdropWhile sound ≠ [] := fun hnil => by
    simpa [sound, h] using List.rdropWhile_eq_nil_iff.1 hnil report hmem
  refine ⟨(reports.rdropWhile sound).dropLast, (reports.rdropWhile sound).getLast hne, ?_, ?_⟩
  · rw [← List.singleton_append, ← List.append_assoc, List.dropLast_append_getLast]
    exact (List.rdropWhile_append_rtakeWhile ..).symm
  · simpa [sound] using List.rdropWhile_last_not sound reports hne

/-- A message is intact exactly if all of it comes after the last malformed report. -/
theorem isIntact_iff (reports : List Bytes) :
    IsIntact reports ↔ (∀ report ∈ reports, IsMalformed report → IsSerial report) ∧
      parts reports = parts (sinceMalformed reports) := by
  constructor
  · intro hintact
    refine ⟨fun report hmem h => ?_, ?_⟩
    · obtain ⟨earlier, later, hreports⟩ := List.append_of_mem hmem
      exact (hintact earlier report later hreports h).1
    · by_cases hsound : ∀ report ∈ reports, ¬IsMalformed report
      · have hall : sinceMalformed reports = reports :=
          List.rtakeWhile_eq_self_iff.2 (by simpa using hsound)
        rw [hall]
      · simp only [not_forall, not_not] at hsound
        obtain ⟨report, hmem, h⟩ := hsound
        obtain ⟨earlier, damaged, hreports, hdamaged⟩ := exists_last_malformed hmem h
        obtain ⟨hserial, hearlier⟩ := hintact _ _ _ hreports hdamaged
        calc parts reports
            = parts earlier ++ (part damaged ++ parts (sinceMalformed reports)) := by
              rw [← parts_cons, ← parts_append, ← hreports]
          _ = parts (sinceMalformed reports) := by
              rw [hearlier, part_of_serial hserial, List.nil_append, List.nil_append]
  · rintro ⟨hserial, hparts⟩ earlier damaged later rfl hdamaged
    refine ⟨hserial damaged (by simp) hdamaged, ?_⟩
    -- The bytes from after the malformed report are no more than those of `later`.
    obtain ⟨skipped, hskipped⟩ : sinceMalformed later <:+ later := List.rtakeWhile_suffix _ _
    have hlater : parts later = parts skipped ++ parts (sinceMalformed later) := by
      rw [← parts_append, hskipped]
    rw [sinceMalformed_append_cons hdamaged, parts_append, parts_cons, hlater] at hparts
    have hlength := congrArg List.length hparts
    simp only [List.length_append] at hlength
    exact List.eq_nil_of_length_eq_zero (by omega)

theorem isWhole_iff {before : List Bytes} {last : Bytes} (hsound : ¬IsMalformed last) :
    IsWhole before last (parts (sinceMalformed (sinceFinal before)) ++ part last) ↔
      IsIntact (sinceFinal before) := by
  have hlast : parts [last] = part last := List.append_nil _
  rw [isIntact_iff]
  constructor
  · rintro ⟨hserial, hmessage⟩
    rw [parts_append, hlast] at hmessage
    exact ⟨fun report hmem => hserial report (List.mem_append_left _ hmem),
      (List.append_cancel_right hmessage).symm⟩
  · rintro ⟨hserial, hparts⟩
    refine ⟨fun report hmem h => ?_, by rw [parts_append, hlast, hparts]⟩
    obtain hmem | hmem := List.mem_append.1 hmem
    · exact hserial report hmem h
    · rw [List.mem_singleton.1 hmem] at h
      exact absurd h hsound

/-! What a report does, by what its header says. -/

theorem push_of_malformed {report : Bytes} (h : IsMalformed report) (a : Assembler) :
    ∃ what, a.push report = .error what := by
  cases report with
  | nil => exact absurd h (Nat.not_lt_zero _)
  | cons header rest => exact ⟨_, if_pos h⟩

theorem push_of_final {report : Bytes} (hsound : ¬IsMalformed report) (h : IsFinal report)
    (a : Assembler) :
    a.push report = .ok (some (.message (a.parts ++ part report)), .empty) := by
  cases report with
  | nil => cases h
  | cons header rest =>
    have hkind : PacketKind.ofHeader header = .final := Option.some.inj h
    have hpart : part (header :: rest) = rest.take (header.toNat % 64) := by
      simp [part, kind?, announced, hkind]
    have hlength : ¬rest.length < header.toNat % 64 := hsound
    simp only [Assembler.push, if_neg hlength, hkind, hpart]

theorem push_of_not_final {report : Bytes} (hsound : ¬IsMalformed report) (h : ¬IsFinal report)
    (a : Assembler) :
    ∃ frame, a.push report = .ok (frame, ⟨a.parts ++ part report⟩) ∧
      ∀ message, frame ≠ some (.message message) := by
  cases report with
  | nil => exact ⟨none, by simp [Assembler.push, part, kind?], by simp⟩
  | cons header rest =>
    have hlength : ¬rest.length < header.toNat % 64 := hsound
    cases hkind : PacketKind.ofHeader header with
    | inner =>
      refine ⟨none, ?_, by simp⟩
      simp only [Assembler.push, if_neg hlength, hkind, part, kind?, announced, List.head?_cons,
        Option.map_some, Option.getD_some, List.tail_cons]
    | final => exact absurd (congrArg some hkind) h
    | serial errors =>
      refine ⟨some (.serial errors (rest.take (header.toNat % 64))), ?_, by simp⟩
      simp only [Assembler.push, if_neg hlength, hkind, part, kind?, List.head?_cons,
        Option.map_some, List.append_nil]

end Hf2

namespace Hf2Link

open Hf2

/-- Only a sound final packet completes a message. -/
theorem mem_heard_iff {assembler : Assembler} {report message : Bytes} :
    .message message ∈ heard assembler [.report report] ↔
      IsFinal report ∧ ¬IsMalformed report ∧ message = assembler.parts ++ part report := by
  by_cases hsound : IsMalformed report
  · obtain ⟨what, hpush⟩ := push_of_malformed hsound assembler
    simp [heard, hpush, hsound]
  by_cases hfinal : IsFinal report
  · simp [heard, push_of_final hsound hfinal, hsound, hfinal]
  · obtain ⟨frame, hpush, hframe⟩ := push_of_not_final hsound hfinal assembler
    rcases frame with _ | message | ⟨errors, serial⟩
    · simp [heard, hpush, hfinal]
    · exact absurd rfl (hframe message)
    · simp [heard, hpush, hfinal]

/-- What the assembler holds after some reports is what the last of them added, as far back as the
last final or malformed one. -/
theorem parts_leftBy (reports : List Bytes) :
    (leftBy .empty (reports.map .report)).parts = parts (sinceMalformed (sinceFinal reports)) := by
  induction reports using List.reverseRecOn with
  | nil => rfl
  | append_singleton reports report ih =>
    rw [List.map_append, leftBy_append]
    change (leaves _ (.report report)).parts = _
    unfold leaves sinceFinal
    by_cases hfinal : IsFinal report
    · rw [List.rtakeWhile_concat_neg _ _ _ (by simpa using hfinal)]
      by_cases hsound : IsMalformed report
      · obtain ⟨what, hpush⟩ := push_of_malformed hsound (leftBy .empty (reports.map .report))
        simp only [hpush]
        rfl
      · simp only [push_of_final hsound hfinal]
        rfl
    · rw [List.rtakeWhile_concat_pos _ _ _ (by simpa using hfinal)]
      unfold sinceMalformed
      by_cases hsound : IsMalformed report
      · obtain ⟨what, hpush⟩ := push_of_malformed hsound (leftBy .empty (reports.map .report))
        rw [List.rtakeWhile_concat_neg _ _ _ (by simpa using hsound)]
        simp only [hpush]
        rfl
      · obtain ⟨frame, hpush, -⟩ :=
          push_of_not_final hsound hfinal (leftBy .empty (reports.map .report))
        rw [List.rtakeWhile_concat_pos _ _ _ (by simpa using hsound)]
        simp only [hpush]
        rw [ih, parts_append, parts_cons]
        exact congrArg _ (List.append_nil _).symm

variable {β : Type} {link : Hf2Link β}

/-- Whatever its callers do, a thread takes in any reports that come. -/
theorem exists_run_reports (link : Hf2Link β) (reports : List Bytes) : ∃ messages now,
    Reader.Run ⟨link, none⟩ (reports.map .report) messages ⟨now, none⟩ := by
  induction reports generalizing link with
  | nil => exact ⟨[], link, .nil _⟩
  | cons report reports ih =>
    obtain ⟨next, hfirst⟩ := Reader.exists_run_arrival link (.report report)
    obtain ⟨messages, now, hrest⟩ := ih next
    exact ⟨_, now, hfirst.trans hrest⟩

/-- On a new connection only whole messages are dispatched exactly if every message is intact that
ends in a sound packet. -/
theorem whole_iff (hnew : link.exchange.assembler = .empty) (reports : List Bytes) :
    (∀ before last after messages now message, reports = before ++ last :: after →
        Reader.Run ⟨link, none⟩ (before.map .report) messages ⟨now, none⟩ →
        .message message ∈ heard now.exchange.assembler [.report last] →
        IsWhole before last message) ↔
      ∀ before last after, reports = before ++ last :: after → IsFinal last → ¬IsMalformed last →
        IsIntact (sinceFinal before) := by
  have hparts {before : List Bytes} {messages : List Happening} {now : Hf2Link β}
      (hrun : Reader.Run ⟨link, none⟩ (before.map .report) messages ⟨now, none⟩) :
      now.exchange.assembler.parts = parts (sinceMalformed (sinceFinal before)) := by
    have hleft : now.exchange.assembler = leftBy link.exchange.assembler (before.map .report) :=
      hrun.conserves.2
    rw [hleft, hnew, parts_leftBy]
  constructor
  · intro hwhole before last after hreports hfinal hsound
    obtain ⟨messages, now, hrun⟩ := exists_run_reports link before
    refine (isWhole_iff hsound).1 (hwhole before last after _ now _ hreports hrun ?_)
    exact mem_heard_iff.2 ⟨hfinal, hsound, by rw [hparts hrun]⟩
  · intro hintact before last after messages now message hreports hrun hmessage
    obtain ⟨hfinal, hsound, rfl⟩ := mem_heard_iff.1 hmessage
    rw [hparts hrun]
    exact (isWhole_iff hsound).2 (hintact before last after hreports hfinal hsound)

/-- A message of which only the last packet is left is dispatched like a whole one. -/
theorem tail_not_whole :
    let link : Hf2Link ScriptedBus := ⟨.standard, soleBus, true, 1, .idle, []⟩
    let reports : List Bytes := [[5, 1], [0x44, 1, 0, 0, 0]]
    link.exchange.assembler = .empty ∧
      ¬∀ before last after messages now message, reports = before ++ last :: after →
        Reader.Run ⟨link, none⟩ (before.map .report) messages ⟨now, none⟩ →
        .message message ∈ heard now.exchange.assembler [.report last] →
        IsWhole before last message := by
  intro link reports
  refine ⟨rfl, fun hwhole => ?_⟩
  have hintact : IsIntact [[5, 1]] :=
    (whole_iff rfl reports).1 hwhole [[5, 1]] _ [] rfl (by decide) (by decide)
  obtain ⟨errors, hkind⟩ := (hintact [] [5, 1] [] rfl (by decide)).1
  cases hkind

/-- A bus whose device loses four bytes of its answer's first packet. -/
def lossyBus : ScriptedBus :=
  { soleBus with
    script :=
      [⟨some Opcode.getGlobals, 1, none, none, [], false,
        [.report [5, 1], .report [0x4c, 1, 0, 0, 0, 2, 0, 0, 0, 0, 0, 0, 0x20]]⟩] }

/-- What is left of the answer begins with the tag of the command, and so answers it. -/
theorem talk_lossy :
    ∃ link : Hf2Link ScriptedBus, connect .standard lossyBus = .ok link ∧
      let tail : Bytes := [1, 0, 0, 0, 2, 0, 0, 0, 0, 0, 0, 0x20]
      (link.asking Opcode.getGlobals []).2.arriving = [.message tail] ∧
        (link.asking Opcode.getGlobals []).2.bus.waiting =
          [.report [5, 1], .report (0x4c :: tail)] ∧
        ¬IsWhole [[5, 1]] (0x4c :: tail) tail ∧
        (link.serve (.talk Opcode.getGlobals [])).answer = .ok (wordBytes [2, 0x20000000]) := by
  refine ⟨_, rfl, ?_, rfl, ?_, ?_⟩
  · decide +kernel
  · intro hwhole
    obtain ⟨errors, hkind⟩ := hwhole.sound [5, 1] List.mem_cons_self (by decide)
    cases hkind
  · decide +kernel

end Hf2Link

end BoardDebug
