import BoardDebug.Hf2.Link
import BoardDebug.Usb.Scripted
import Mathlib.Data.List.Induction

namespace BoardDebug

open Hf2

namespace Hf2Link

/-- What happens at a link, on the side of its caller and on that of its device. -/
inductive Happening where
  /-- A command is sent, and its answer is waited for. -/
  | request (command : UInt32)
  /-- A command is sent that has no answer. -/
  | order
  /-- A complete message from the device is taken in. -/
  | message (bytes : Bytes)
  /-- The connection breaks. -/
  | lost
  /-- Nobody waits any more: the answer was taken, did not come in time, or could not be asked
  for. -/
  | release

namespace Happening

/-- What a device says, if it can be read. -/
def answer? : Happening → Option Answer
  | message bytes => (Answer.ofBytes bytes).toOption
  | _ => none

def event? (happening : Happening) : Option Event :=
  match happening.answer? with
  | some (.event event) => some event
  | _ => none

def isCommand : Happening → Bool
  | request _ => true
  | order => true
  | _ => false

/-- Whether a wait begins or ends, so that an earlier one is over. -/
def Turns : Happening → Prop
  | request _ => True
  | release => True
  | _ => False

/-- Whether a command with a tag has its answer, or will have none. -/
def Ends (tag : UInt16) (happening : Happening) : Prop :=
  happening = lost ∨ ∃ status info payload,
    happening.answer? = some (.response tag status info payload)

end Happening

/-- How many commands were sent. -/
def commands (history : List Happening) : Nat :=
  history.countP Happening.isCommand

/-- The tag of a command that is sent after a history. -/
def tagAfter (history : List Happening) : UInt16 :=
  .ofNat (commands history + 1) &&& 0x7fff

/-- The last command to wait for an answer was sent after `first`, and is waited for still. -/
def IsUnderWay (history first : List Happening) (command : UInt32) (later : List Happening) :
    Prop :=
  history = first ++ .request command :: later ∧ ∀ happening ∈ later, ¬happening.Turns

/-- The first thing that ends a command with a tag is a response. -/
def IsAnswered (tag : UInt16) (later : List Happening) (status info : UInt8) (payload : Bytes) :
    Prop :=
  ∃ before reply after, later = before ++ reply :: after ∧
    reply.answer? = some (.response tag status info payload) ∧
    ∀ happening ∈ before, ¬happening.Ends tag

variable {β : Type}

/-- A link after something has happened. -/
def after (link : Hf2Link β) : Happening → Hf2Link β
  | .request command =>
    let (tag, link) := link.takeTag
    { link with exchange := link.exchange.expect tag command }
  | .order => link.takeTag.2
  | .message bytes =>
    let (exchange, events) := link.exchange.dispatch bytes
    { link with exchange, events := link.events ++ events }
  | .lost => { link with isOpen := false, exchange := link.exchange.breakOff (.usb .reading) }
  | .release => { link with exchange := link.exchange.release }

/-- A link after a history. -/
def afterAll (link : Hf2Link β) (history : List Happening) : Hf2Link β :=
  history.foldl after link

variable {link : Hf2Link β} {history first later : List Happening} {happening : Happening}
  {bytes : Bytes} {tag : UInt16} {status info : UInt8} {payload : Bytes}

theorem afterAll_concat (link : Hf2Link β) (history : List Happening) (happening : Happening) :
    link.afterAll (history ++ [happening]) = (link.afterAll history).after happening := by
  simp [afterAll]

theorem afterAll_append (link : Hf2Link β) (history later : List Happening) :
    link.afterAll (history ++ later) = (link.afterAll history).afterAll later := by
  simp [afterAll]

/-! A single message. -/

theorem ofBytes_of_answer? {answer : Answer}
    (h : (Happening.message bytes).answer? = some answer) : Answer.ofBytes bytes = .ok answer := by
  change (Answer.ofBytes bytes).toOption = some answer at h
  cases hread : Answer.ofBytes bytes with
  | ok read =>
    rw [hread] at h
    cases h
    rfl
  | error what =>
    rw [hread] at h
    cases h

/-- An event is handed on, and the exchange is left alone. -/
theorem after_message_of_event {event : Event}
    (h : (Happening.message bytes).answer? = some (.event event)) :
    link.after (.message bytes) = { link with events := link.events ++ [event] } := by
  simp only [after, Exchange.dispatch, ofBytes_of_answer? h]

theorem after_message_of_none (h : (Happening.message bytes).answer? = none) :
    link.after (.message bytes) = link := by
  change (Answer.ofBytes bytes).toOption = none at h
  cases hread : Answer.ofBytes bytes with
  | ok read =>
    rw [hread] at h
    cases h
  | error what => simp [after, Exchange.dispatch, hread]

theorem after_message_of_response
    (h : (Happening.message bytes).answer? = some (.response tag status info payload)) :
    link.after (.message bytes) = { link with exchange := { link.exchange with
      slot := Exchange.settle link.exchange.slot tag status info payload } } := by
  simp [after, Exchange.dispatch, ofBytes_of_answer? h]

/-- A response to anything but the command under way is dropped. -/
theorem after_message_of_ne
    (h : (Happening.message bytes).answer? = some (.response tag status info payload))
    (hslot : ∀ pending, link.exchange.slot = .waiting pending → pending.tag ≠ tag) :
    link.after (.message bytes) = link := by
  have hsettle : Exchange.settle link.exchange.slot tag status info payload =
      link.exchange.slot := by
    unfold Exchange.settle
    split
    case h_1 pending hwaiting => rw [if_neg (hslot pending hwaiting)]
    case h_2 => rfl
  rw [after_message_of_response h, hsettle]

/-! The command under way. -/

/-- What comes of a command by something that happens, if that ends it. -/
def verdict? (pending : Pending) (happening : Happening) : Option (Except LinkError Bytes) :=
  match happening, happening.answer? with
  | .lost, _ => some (.error (.usb .reading))
  | _, some (.response tag status info payload) =>
    if pending.tag = tag then some (Exchange.outcome pending.command status info payload) else none
  | _, _ => none

theorem slot_after_of_waiting {pending : Pending} (hslot : link.exchange.slot = .waiting pending)
    (hturns : ¬happening.Turns) : (link.after happening).exchange.slot =
      match verdict? pending happening with
      | some result => .answered result
      | none => .waiting pending := by
  cases happening with
  | request command => exact absurd trivial hturns
  | release => exact absurd trivial hturns
  | order => exact hslot
  | lost => simp [after, Exchange.breakOff, hslot, verdict?]
  | message bytes =>
    cases hanswer : (Happening.message bytes).answer? with
    | none =>
      rw [after_message_of_none hanswer, hslot]
      simp [verdict?, hanswer]
    | some answer =>
      cases answer with
      | event event =>
        rw [after_message_of_event hanswer]
        simpa [verdict?, hanswer] using hslot
      | response tag status info payload =>
        rw [after_message_of_response hanswer]
        simp only [verdict?, hanswer, Exchange.settle, hslot]
        split <;> rfl

/-- Nothing that is taken in makes a command waited for. -/
theorem slot_after_of_not_waiting (hslot : ∀ pending, link.exchange.slot ≠ .waiting pending)
    (hturns : ¬happening.Turns) :
    (link.after happening).exchange.slot = link.exchange.slot := by
  cases happening with
  | request command => exact absurd trivial hturns
  | release => exact absurd trivial hturns
  | order => rfl
  | lost =>
    unfold after Exchange.breakOff
    dsimp only
    split
    case h_1 pending hwaiting => exact absurd hwaiting (hslot pending)
    case h_2 => rfl
  | message bytes =>
    cases hanswer : (Happening.message bytes).answer? with
    | none => rw [after_message_of_none hanswer]
    | some answer =>
      cases answer with
      | event event => rw [after_message_of_event hanswer]
      | response tag status info payload =>
        rw [after_message_of_ne hanswer fun pending hwaiting => absurd hwaiting (hslot pending)]

theorem slot_afterAll_of_free (hslot : link.exchange.slot = .free)
    (hturns : ∀ happening ∈ later, ¬happening.Turns) :
    (link.afterAll later).exchange.slot = .free := by
  induction later generalizing link with
  | nil => exact hslot
  | cons happening later ih =>
    obtain ⟨hturn, hturns⟩ := List.forall_mem_cons.1 hturns
    refine ih ?_ hturns
    rw [slot_after_of_not_waiting (by simp [hslot]) hturn, hslot]

/-- The first thing that ends a command decides what comes of it. -/
theorem slot_afterAll {pending : Pending} (hslot : link.exchange.slot = .waiting pending)
    (hturns : ∀ happening ∈ later, ¬happening.Turns) : (link.afterAll later).exchange.slot =
      match later.findSome? (verdict? pending) with
      | some result => .answered result
      | none => .waiting pending := by
  induction later using List.reverseRecOn with
  | nil => exact hslot
  | append_singleton later happening ih =>
    have ih := ih fun earlier hearlier => hturns earlier (List.mem_append_left _ hearlier)
    have hturn := hturns happening (List.mem_append_right _ (List.mem_singleton.2 rfl))
    rw [afterAll_concat, List.findSome?_append]
    cases hfind : later.findSome? (verdict? pending) with
    | some result =>
      rw [hfind] at ih
      rw [slot_after_of_not_waiting (by simp [ih]) hturn, ih]
      rfl
    | none =>
      rw [hfind] at ih
      rw [slot_after_of_waiting ih hturn]
      simp [List.findSome?]
      cases verdict? pending happening <;> rfl

theorem verdict?_eq_some {pending : Pending} {result : Except LinkError Bytes} :
    verdict? pending happening = some result ↔
      (happening = .lost ∧ result = .error (.usb .reading)) ∨ ∃ status info payload,
        happening.answer? = some (.response pending.tag status info payload) ∧
        result = Exchange.outcome pending.command status info payload := by
  unfold verdict?
  split
  case h_1 => simp [Happening.answer?, eq_comm]
  case h_2 tag status info payload hlost hanswer =>
    rw [hanswer]
    split
    case isTrue htag =>
      subst htag
      constructor
      · rintro ⟨⟩
        exact .inr ⟨_, _, _, rfl, rfl⟩
      · rintro (⟨rfl, -⟩ | ⟨_, _, _, h, rfl⟩)
        · exact absurd rfl hlost
        · cases h
          rfl
    case isFalse htag =>
      constructor
      · rintro ⟨⟩
      · rintro (⟨rfl, -⟩ | ⟨_, _, _, h, -⟩)
        · exact absurd rfl hlost
        · cases h
          exact absurd rfl htag
  case h_3 hlost hresponse =>
    constructor
    · rintro ⟨⟩
    · rintro (⟨rfl, -⟩ | ⟨_, _, _, h, -⟩)
      · exact absurd rfl hlost
      · exact absurd h (hresponse _ _ _ _)

theorem verdict?_eq_none {pending : Pending} :
    verdict? pending happening = none ↔ ¬happening.Ends pending.tag := by
  rw [Option.eq_none_iff_forall_ne_some]
  constructor
  · rintro h (hlost | ⟨status, info, payload, hanswer⟩)
    · exact h _ (verdict?_eq_some.2 (.inl ⟨hlost, rfl⟩))
    · exact h _ (verdict?_eq_some.2 (.inr ⟨status, info, payload, hanswer, rfl⟩))
  · intro h result hresult
    obtain ⟨hlost, -⟩ | ⟨status, info, payload, hanswer, -⟩ := verdict?_eq_some.1 hresult
    · exact h (.inl hlost)
    · exact h (.inr ⟨status, info, payload, hanswer⟩)

theorem outcome_eq_ok {command : UInt32} {status info : UInt8} {payload result : Bytes} :
    Exchange.outcome command status info payload = .ok result ↔ status = 0 ∧ payload = result := by
  unfold Exchange.outcome
  split <;> simp_all

theorem outcome_eq_failed {command command' : UInt32} {status info status' info' : UInt8} :
    Exchange.outcome command status info payload = .error (.commandFailed command' status' info') ↔
      status ≠ 0 ∧ command' = command ∧ status' = status ∧ info' = info := by
  unfold Exchange.outcome
  split <;> simp_all [eq_comm]

/-- What a caller gets that stops waiting for the answer to its command. -/
theorem conclude_eq {pending : Pending} (hslot : link.exchange.slot = .waiting pending)
    (hturns : ∀ happening ∈ later, ¬happening.Turns) {result : Except LinkError Bytes}
    (hresult : result ≠ .error (.timeout pending.command)) :
    ((link.afterAll later).conclude pending.command).1 = result ↔
      later.findSome? (verdict? pending) = some result := by
  unfold conclude
  rw [slot_afterAll hslot hturns]
  cases later.findSome? (verdict? pending) with
  | some verdict => simp
  | none => simpa using hresult.symm

theorem findSome?_verdict?_eq_ok {pending : Pending} :
    later.findSome? (verdict? pending) = some (.ok payload) ↔
      ∃ info, IsAnswered pending.tag later 0 info payload := by
  rw [List.findSome?_eq_some_iff]
  simp only [verdict?_eq_some, verdict?_eq_none]
  constructor
  · rintro ⟨before, reply, after, hlater,
      ⟨-, h⟩ | ⟨status, info, payload', hanswer, houtcome⟩, hbefore⟩
    · cases h
    · obtain ⟨rfl, rfl⟩ := outcome_eq_ok.1 houtcome.symm
      exact ⟨info, before, reply, after, hlater, hanswer, hbefore⟩
  · rintro ⟨info, before, reply, after, hlater, hanswer, hbefore⟩
    exact ⟨before, reply, after, hlater, .inr ⟨0, info, payload, hanswer, rfl⟩, hbefore⟩

theorem findSome?_verdict?_eq_failed {pending : Pending} {command : UInt32} :
    later.findSome? (verdict? pending) = some (.error (.commandFailed command status info)) ↔
      command = pending.command ∧ status ≠ 0 ∧
        ∃ payload, IsAnswered pending.tag later status info payload := by
  rw [List.findSome?_eq_some_iff]
  simp only [verdict?_eq_some, verdict?_eq_none]
  constructor
  · rintro ⟨before, reply, after, hlater,
      ⟨-, h⟩ | ⟨status', info', payload, hanswer, houtcome⟩, hbefore⟩
    · cases h
    · obtain ⟨hstatus, rfl, rfl, rfl⟩ := outcome_eq_failed.1 houtcome.symm
      exact ⟨rfl, hstatus, payload, before, reply, after, hlater, hanswer, hbefore⟩
  · rintro ⟨rfl, hstatus, payload, before, reply, after, hlater, hanswer, hbefore⟩
    exact ⟨before, reply, after, hlater, .inr ⟨status, info, payload, hanswer,
      (outcome_eq_failed.2 ⟨hstatus, rfl, rfl, rfl⟩).symm⟩, hbefore⟩

/-! Tags. -/

theorem nextTag_after (link : Hf2Link β) (happening : Happening) :
    (link.after happening).nextTag = link.nextTag + if happening.isCommand then 1 else 0 := by
  cases happening with
  | request command => rfl
  | order => rfl
  | message bytes => simp [after, Happening.isCommand]
  | lost => simp [after, Happening.isCommand]
  | release => simp [after, Happening.isCommand]

theorem nextTag_afterAll (hlink : link.nextTag = 1) (history : List Happening) :
    (link.afterAll history).nextTag = .ofNat (commands history + 1) := by
  induction history using List.reverseRecOn with
  | nil => exact hlink
  | append_singleton history happening ih =>
    rw [afterAll_concat, nextTag_after, ih, commands, commands, List.countP_append]
    by_cases h : happening.isCommand
    · simp [h, UInt16.ofNat_add]
    · simp [h]

theorem toNat_tagAfter (h : commands history < 32767) :
    (tagAfter history).toNat = commands history + 1 := by
  have hmask : (0x7fff : UInt16).toNat = 2 ^ 15 - 1 := rfl
  rw [tagAfter, UInt16.toNat_and, hmask, Nat.and_two_pow_sub_one_eq_mod, UInt16.toNat_ofNat']
  omega

theorem commands_lt_append (history later : List Happening) (command : UInt32) :
    commands history < commands (history ++ .request command :: later) := by
  simp only [commands, List.countP_append, List.countP_cons, Happening.isCommand, if_true]
  omega

/-- A link that nothing has been asked of. -/
structure IsFresh (link : Hf2Link β) : Prop where
  nextTag : link.nextTag = 1
  slot : link.exchange.slot = .free
  events : link.events = []

/-- A command that is waited for is the last one. -/
theorem underWay_of_waiting (hlink : link.IsFresh) {pending : Pending}
    (hslot : (link.afterAll history).exchange.slot = .waiting pending) :
    ∃ first later, IsUnderWay history first pending.command later ∧
      pending.tag = tagAfter first ∧ ∀ happening ∈ later, ¬happening.Ends pending.tag := by
  induction history using List.reverseRecOn with
  | nil =>
    have hfree : link.exchange.slot = .waiting pending := hslot
    rw [hlink.slot] at hfree
    cases hfree
  | append_singleton history happening ih =>
    rw [afterAll_concat] at hslot
    by_cases hturns : happening.Turns
    · cases happening with
      | request command =>
        simp only [after, Exchange.expect, takeTag, nextTag_afterAll hlink.nextTag] at hslot
        cases hslot
        exact ⟨history, [], ⟨rfl, by simp⟩, rfl, by simp⟩
      | release => cases hslot
      | order => exact hturns.elim
      | message bytes => exact hturns.elim
      | lost => exact hturns.elim
    · -- Anything else leaves a command that is waited for as it was, or ends it.
      cases hbefore : (link.afterAll history).exchange.slot with
      | free =>
        rw [slot_after_of_not_waiting (by simp [hbefore]) hturns, hbefore] at hslot
        cases hslot
      | answered result =>
        rw [slot_after_of_not_waiting (by simp [hbefore]) hturns, hbefore] at hslot
        cases hslot
      | waiting earlier =>
        rw [slot_after_of_waiting hbefore hturns] at hslot
        cases hverdict : verdict? earlier happening with
        | some result =>
          rw [hverdict] at hslot
          cases hslot
        | none =>
          rw [hverdict] at hslot
          cases hslot
          obtain ⟨first, later, ⟨rfl, hlater⟩, htag, hends⟩ := ih hbefore
          refine ⟨first, later ++ [happening], ⟨by simp, ?_⟩, htag, ?_⟩
          · exact List.forall_mem_append.2 ⟨hlater, by simpa using hturns⟩
          · exact List.forall_mem_append.2 ⟨hends, by simpa using verdict?_eq_none.1 hverdict⟩

/-- As long as there are not too many commands, a later one has another tag. -/
theorem tagAfter_ne {last : List Happening} (hlt : commands first < commands last)
    (hfew : commands last < 32767) : tagAfter first ≠ tagAfter last := by
  intro heq
  have hnat := congrArg UInt16.toNat heq
  rw [toNat_tagAfter (by omega), toNat_tagAfter hfew] at hnat
  omega

/-- The tag of a command that is waited for is not that of a command before it. -/
theorem ne_tagAfter_of_waiting (hlink : link.IsFresh) {command : UInt32} {middle : List Happening}
    (hhistory : history = first ++ .request command :: middle)
    (hfew : commands history < 32767) (hover : ∃ happening ∈ middle, happening.Turns)
    {pending : Pending} (hslot : (link.afterAll history).exchange.slot = .waiting pending) :
    pending.tag ≠ tagAfter first := by
  obtain ⟨last, later, ⟨hlast, hlater⟩, htag, -⟩ := underWay_of_waiting hlink hslot
  obtain ⟨turn, hturn, hturns⟩ := hover
  have hfew : commands last < 32767 := by
    have hlt := commands_lt_append last later pending.command
    rw [← hlast] at hlt
    omega
  rw [htag]
  obtain ⟨between, hbetween, hrest⟩ | ⟨between, hbetween, hrest⟩ :=
    List.append_eq_append_iff.1 (hhistory.symm.trans hlast)
  · cases between with
    | nil =>
      -- They would be one and the same command, after which nothing ends the wait.
      cases hrest
      exact absurd hturns (hlater turn hturn)
    | cons head between =>
      cases hrest
      refine (tagAfter_ne ?_ hfew).symm
      rw [hbetween]
      exact commands_lt_append first between command
  · cases between with
    | nil =>
      cases hrest
      exact absurd hturns (hlater turn hturn)
    | cons head between =>
      cases hrest
      exact absurd trivial (hlater (.request command) (by simp))

/-- The events are handed on in the order in which they arrive, whatever is waited for. -/
theorem events_afterAll (link : Hf2Link β) (history : List Happening) :
    (link.afterAll history).events = link.events ++ history.filterMap Happening.event? := by
  induction history using List.reverseRecOn with
  | nil => simp [afterAll]
  | append_singleton history happening ih =>
    have hafter : ((link.afterAll history).after happening).events =
        (link.afterAll history).events ++ [happening].filterMap Happening.event? := by
      cases happening with
      | request command => simp [after, takeTag, Happening.event?, Happening.answer?]
      | order => simp [after, takeTag, Happening.event?, Happening.answer?]
      | lost => simp [after, Happening.event?, Happening.answer?]
      | release => simp [after, Happening.event?, Happening.answer?]
      | message bytes =>
        cases hanswer : (Happening.message bytes).answer? with
        | none =>
          rw [after_message_of_none hanswer]
          simp [Happening.event?, hanswer]
        | some answer =>
          cases answer with
          | event event =>
            rw [after_message_of_event hanswer]
            simp [Happening.event?, hanswer]
          | response tag status info payload =>
            rw [after_message_of_response hanswer]
            simp [Happening.event?, hanswer]
    rw [afterAll_concat, hafter, ih, List.filterMap_append, List.append_assoc]

/-! The calls of a link, on whatever bus. -/

/-- Links that are the same but for their connection and the parts of an unfinished message. -/
structure Agrees (link link' : Hf2Link β) : Prop where
  nextTag : link.nextTag = link'.nextTag
  slot : link.exchange.slot = link'.exchange.slot
  events : link.events = link'.events

theorem Agrees.refl (link : Hf2Link β) : link.Agrees link := ⟨rfl, rfl, rfl⟩

theorem Agrees.trans {link link' link'' : Hf2Link β} (h : link.Agrees link')
    (h' : link'.Agrees link'') : link.Agrees link'' :=
  ⟨h.nextTag.trans h'.nextTag, h.slot.trans h'.slot, h.events.trans h'.events⟩

theorem Agrees.after {link link' : Hf2Link β} (h : link.Agrees link') (happening : Happening) :
    (link.after happening).Agrees (link'.after happening) := by
  obtain ⟨htag, hslot, hevents⟩ := h
  cases happening with
  | request command =>
    exact ⟨by simp [Hf2Link.after, takeTag, htag],
      by simp [Hf2Link.after, takeTag, Exchange.expect, htag], hevents⟩
  | order => exact ⟨by simp [Hf2Link.after, takeTag, htag], hslot, hevents⟩
  | lost => exact ⟨htag, by simp [Hf2Link.after, Exchange.breakOff, hslot], hevents⟩
  | release => exact ⟨htag, rfl, hevents⟩
  | message bytes =>
    cases hanswer : (Happening.message bytes).answer? with
    | none =>
      rw [after_message_of_none hanswer, after_message_of_none hanswer]
      exact ⟨htag, hslot, hevents⟩
    | some answer =>
      cases answer with
      | event event =>
        rw [after_message_of_event hanswer, after_message_of_event hanswer]
        exact ⟨htag, hslot, by simp [hevents]⟩
      | response tag status info payload =>
        rw [after_message_of_response hanswer, after_message_of_response hanswer]
        exact ⟨htag, by simp [hslot], hevents⟩

theorem Agrees.afterAll {link link' : Hf2Link β} (h : link.Agrees link')
    (history : List Happening) : (link.afterAll history).Agrees (link'.afterAll history) := by
  induction history generalizing link link' with
  | nil => exact h
  | cons happening history ih => exact ih (h.after happening)

theorem Agrees.conclude {link link' : Hf2Link β} (h : link.Agrees link') (command : UInt32) :
    (link.conclude command).1 = (link'.conclude command).1 ∧
      (link.conclude command).2.Agrees (link'.after .release) := by
  unfold Hf2Link.conclude
  rw [h.slot]
  split
  · exact ⟨rfl, h.nextTag, rfl, h.events⟩
  · exact ⟨rfl, h.nextTag, rfl, h.events⟩

/-- What arrivals amount to: the messages that they complete, and the end of the connection. -/
def heard (assembler : Assembler) : List Arrival → List Happening
  | [] => []
  | .broken :: _ => [.lost]
  | .report bytes :: rest =>
    match assembler.push bytes with
    | .error _ => heard .empty rest
    | .ok (some (.message message), assembler) => .message message :: heard assembler rest
    | .ok (_, assembler) => heard assembler rest

theorem assembler_after_message (link : Hf2Link β) (bytes : Bytes) :
    (link.after (.message bytes)).exchange.assembler = link.exchange.assembler := by
  cases hanswer : (Happening.message bytes).answer? with
  | none => rw [after_message_of_none hanswer]
  | some answer =>
    cases answer with
    | event event => rw [after_message_of_event hanswer]
    | response tag status info payload => rw [after_message_of_response hanswer]

theorem agrees_take (link : Hf2Link β) (arrivals : List Arrival) :
    (link.take arrivals).Agrees (link.afterAll (heard link.exchange.assembler arrivals)) := by
  induction arrivals generalizing link with
  | nil => exact .refl link
  | cons arrival arrivals ih =>
    cases arrival with
    | broken => exact .refl _
    | report bytes =>
      unfold take heard Exchange.feed
      cases link.exchange.assembler.push bytes with
      | error what =>
        refine (ih _).trans (Agrees.afterAll ?_ _)
        exact ⟨rfl, rfl, List.append_nil _⟩
      | ok pushed =>
        obtain ⟨frame, assembler⟩ := pushed
        rcases frame with _ | message | ⟨errors, serial⟩
        · refine (ih _).trans (Agrees.afterAll ?_ _)
          exact ⟨rfl, rfl, List.append_nil _⟩
        · let fed : Hf2Link β := { link with exchange := { link.exchange with assembler } }
          have hfed := ih (fed.after (.message message))
          rw [assembler_after_message] at hfed
          have hlink : fed.Agrees link := ⟨rfl, rfl, rfl⟩
          exact hfed.trans ((hlink.after _).afterAll _)
        · refine (ih _).trans (Agrees.afterAll ?_ _)
          exact ⟨rfl, rfl, List.append_nil _⟩

theorem forall_mem_heard (assembler : Assembler) (arrivals : List Arrival) :
    ∀ happening ∈ heard assembler arrivals, ¬happening.Turns ∧ happening.isCommand = false := by
  induction arrivals generalizing assembler with
  | nil => simp [heard]
  | cons arrival arrivals ih =>
    cases arrival with
    | broken =>
      simp [heard, Happening.Turns, Happening.isCommand]
    | report bytes =>
      unfold heard
      split
      · exact ih _
      · exact List.forall_mem_cons.2 ⟨⟨id, rfl⟩, ih _⟩
      · exact ih _

variable [UsbBus β]

/-- What the device has sent in the meantime. -/
def arriving (link : Hf2Link β) : List Happening :=
  if link.isOpen then heard link.exchange.assembler (UsbBus.receive link.bus).1 else []

theorem forall_mem_arriving (link : Hf2Link β) :
    ∀ happening ∈ link.arriving, ¬happening.Turns ∧ happening.isCommand = false := by
  unfold arriving
  split
  · exact forall_mem_heard _ _
  · simp

theorem agrees_listen (link : Hf2Link β) : link.listen.Agrees (link.afterAll link.arriving) := by
  unfold listen arriving
  split
  · have hread : { link with bus := (UsbBus.receive link.bus).2 }.Agrees link := ⟨rfl, rfl, rfl⟩
    exact (agrees_take _ _).trans (hread.afterAll _)
  · exact .refl link

theorem agrees_send (link : Hf2Link β) (message : Bytes) : (link.send message).2.Agrees link := by
  unfold send
  split <;> exact ⟨rfl, rfl, rfl⟩

theorem agrees_tell (link : Hf2Link β) (command : UInt32) :
    (link.tell command).2.Agrees (link.after .order) :=
  agrees_send _ _

theorem agrees_reopen (link : Hf2Link β) : link.reopen.2.Agrees link := by
  unfold reopen
  split
  · exact ⟨rfl, rfl, rfl⟩
  · dsimp only
    split <;> exact ⟨rfl, rfl, rfl⟩

/-- A command on its way to the device, before an answer is looked for. -/
def asking (link : Hf2Link β) (command : UInt32) (payload : Bytes) :
    Except LinkError Unit × Hf2Link β :=
  (link.after (.request command)).send (commandMessage command link.takeTag.1 payload)

theorem ask_eq (link : Hf2Link β) (command : UInt32) (payload : Bytes) :
    link.ask command payload =
      match link.asking command payload with
      | (.ok (), sent) => sent.listen.conclude command
      | (.error error, sent) => (.error error, sent.after .release) :=
  rfl

/-- To ask is to send a command, to take in what arrives, and to stop waiting. -/
theorem agrees_ask {link sent : Hf2Link β} {command : UInt32} {payload : Bytes}
    (hsent : link.asking command payload = (.ok (), sent)) :
    (link.ask command payload).1 =
        ((link.afterAll (.request command :: sent.arriving)).conclude command).1 ∧
      (link.ask command payload).2.Agrees
        (link.afterAll (.request command :: (sent.arriving ++ [.release]))) := by
  have hstart : sent.Agrees (link.after (.request command)) := by
    have h := agrees_send (link.after (.request command))
      (commandMessage command link.takeTag.1 payload)
    rwa [show (link.after (.request command)).send _ = _ from hsent] at h
  obtain ⟨hresult, hstate⟩ := (sent.agrees_listen.trans (hstart.afterAll _)).conclude command
  rw [ask_eq, hsent, ← List.cons_append, afterAll_concat]
  exact ⟨hresult, hstate⟩

/-- A command that cannot be sent is not waited for. -/
theorem agrees_ask_of_error {link sent : Hf2Link β} {command : UInt32} {payload : Bytes}
    {error : LinkError} (hsent : link.asking command payload = (.error error, sent)) :
    (link.ask command payload).1 = .error error ∧
      (link.ask command payload).2.Agrees (link.afterAll [.request command, .release]) := by
  have hstart : sent.Agrees (link.after (.request command)) := by
    have h := agrees_send (link.after (.request command))
      (commandMessage command link.takeTag.1 payload)
    rwa [show (link.after (.request command)).send _ = _ from hsent] at h
  rw [ask_eq, hsent]
  exact ⟨rfl, hstart.after .release⟩

/-- Whatever is said to a device, the link goes through a history. -/
theorem exists_history_run {α : Type} (dialogue : Dialogue α) (link : Hf2Link β) :
    ∃ history, (dialogue.run link).2.Agrees (link.afterAll history) := by
  induction dialogue generalizing link with
  | done result => exact ⟨[], .refl link⟩
  | ask command payload next ih =>
    obtain ⟨first, hfirst⟩ : ∃ first,
        (link.ask command payload).2.Agrees (link.afterAll first) := by
      cases hsent : link.asking command payload with
      | mk result sent =>
        cases result with
        | ok _ => exact ⟨_, (agrees_ask hsent).2⟩
        | error error => exact ⟨_, (agrees_ask_of_error hsent).2⟩
    simp only [Dialogue.run, Channel.ask]
    cases hask : link.ask command payload with
    | mk result asked =>
      rw [hask] at hfirst
      cases result with
      | error error => exact ⟨first, hfirst⟩
      | ok reply =>
        obtain ⟨rest, hrest⟩ := ih reply asked
        exact ⟨first ++ rest, by
          rw [afterAll_append]
          exact hrest.trans (hfirst.afterAll rest)⟩
  | tell command next ih =>
    have hfirst := agrees_tell link command
    simp only [Dialogue.run, Channel.tell]
    cases htell : link.tell command with
    | mk result told =>
      rw [htell] at hfirst
      cases result with
      | error error => exact ⟨[.order], hfirst⟩
      | ok _ =>
        obtain ⟨rest, hrest⟩ := ih told
        exact ⟨.order :: rest, hrest.trans (hfirst.afterAll rest)⟩
  | reopen next ih =>
    have hfirst := agrees_reopen link
    simp only [Dialogue.run, Channel.reopen]
    cases hreopen : link.reopen with
    | mk result reopened =>
      rw [hreopen] at hfirst
      cases result with
      | error error => exact ⟨[], hfirst⟩
      | ok _ =>
        obtain ⟨rest, hrest⟩ := ih reopened
        exact ⟨rest, hrest.trans (hfirst.afterAll rest)⟩

/-- A request is served by a history of the link, whose events are handed on. -/
theorem exists_history_serve (link : Hf2Link β) (request : Request) : ∃ history,
    (link.serve request).events = (link.afterAll history).events ∧
      (link.serve request).link.Agrees { link.afterAll history with events := [] } := by
  obtain ⟨history, hrun⟩ := exists_history_run (Dialogue.ofRequest request) link
  have hlisten := (agrees_listen _).trans
    (hrun.afterAll ((Dialogue.ofRequest request).run link).2.arriving)
  rw [← afterAll_append] at hlisten
  exact ⟨_, hlisten.events, hlisten.nextTag, hlisten.slot, rfl⟩

/-- A link that has just been opened is fresh. -/
theorem isFresh_of_connect {options : Options} {bus : β} {link : Hf2Link β}
    (h : connect options bus = .ok link) : link.IsFresh := by
  unfold connect at h
  cases hopen : openDevice options bus with
  | error fault =>
    rw [hopen] at h
    cases h
  | ok bus =>
    rw [hopen] at h
    cases h
    let opened : Hf2Link β := ⟨options, bus, true, 1, .idle, []⟩
    have hlisten := opened.agrees_listen
    have hquiet := opened.forall_mem_arriving
    have hnone : commands opened.arriving = 0 :=
      List.countP_eq_zero.2 fun happening hmem => by simp [(hquiet happening hmem).2]
    have htag : (opened.afterAll opened.arriving).nextTag = .ofNat (0 + 1) := by
      rw [nextTag_afterAll rfl, hnone]
    have hslot : (opened.afterAll opened.arriving).exchange.slot = .free :=
      slot_afterAll_of_free rfl fun happening hmem => (hquiet happening hmem).1
    exact ⟨hlisten.nextTag.trans htag, hlisten.slot.trans hslot, rfl⟩

/-- What a command comes to, and what a message does, at any time after a link was opened. -/
theorem answers_match {options : Options} {bus : β} {link : Hf2Link β}
    (hlink : connect options bus = .ok link) (hfew : commands history < 32767) :
    (∀ pending, (link.afterAll history).exchange.slot = .waiting pending →
      ∃ first later, IsUnderWay history first pending.command later ∧
        pending.tag = tagAfter first ∧ ∀ happening ∈ later, ¬happening.Ends pending.tag) ∧
    (∀ first command later, IsUnderWay history first command later →
      (∀ payload, ((link.afterAll history).conclude command).1 = .ok payload ↔
        ∃ info, IsAnswered (tagAfter first) later 0 info payload) ∧
      ∀ named status info,
        ((link.afterAll history).conclude command).1 =
            .error (.commandFailed named status info) ↔
          named = command ∧ status ≠ 0 ∧
            ∃ payload, IsAnswered (tagAfter first) later status info payload) ∧
    (∀ bytes tag status info payload,
      (Happening.message bytes).answer? = some (.response tag status info payload) →
      (∀ pending, (link.afterAll history).exchange.slot = .waiting pending → pending.tag ≠ tag) →
      (link.afterAll history).after (.message bytes) = link.afterAll history) ∧
    (∀ first command middle bytes status info payload,
      history = first ++ .request command :: middle →
      (∃ happening ∈ middle, happening.Turns) →
      (Happening.message bytes).answer? =
        some (.response (tagAfter first) status info payload) →
      (link.afterAll history).after (.message bytes) = link.afterAll history) ∧
    (∀ bytes, (Happening.message bytes).answer? = none →
      (link.afterAll history).after (.message bytes) = link.afterAll history) ∧
    (∀ bytes event, (Happening.message bytes).answer? = some (.event event) →
      (link.afterAll history).after (.message bytes) =
        { link.afterAll history with events := (link.afterAll history).events ++ [event] }) ∧
    ∀ {η : Type} (handlers : Handlers η),
      handlers.deliver (link.afterAll history).events = history.filterMap fun happening =>
        happening.event?.bind fun event =>
          (handlers.lookup event.code).map fun handler => (handler, event.payload) := by
  have hfresh := isFresh_of_connect hlink
  refine ⟨fun pending => underWay_of_waiting hfresh, ?_, ?_, ?_, ?_, ?_, ?_⟩
  · rintro first command later ⟨rfl, hturns⟩
    let pending : Pending := ⟨tagAfter first, command⟩
    have hslot : ((link.afterAll first).after (.request command)).exchange.slot =
        .waiting pending := by
      change Slot.waiting ⟨(link.afterAll first).nextTag &&& 0x7fff, command⟩ = _
      rw [nextTag_afterAll hfresh.nextTag]
      rfl
    have hnow : link.afterAll (first ++ .request command :: later) =
        ((link.afterAll first).after (.request command)).afterAll later := by
      rw [afterAll_append]
      rfl
    rw [hnow]
    refine ⟨fun payload => ?_, fun named status info => ?_⟩
    · exact Iff.trans (conclude_eq hslot hturns (by simp)) findSome?_verdict?_eq_ok
    · exact Iff.trans (conclude_eq hslot hturns (by simp)) findSome?_verdict?_eq_failed
  · intro bytes tag status info payload
    exact after_message_of_ne
  · intro first command middle bytes status info payload hhistory hover hanswer
    exact after_message_of_ne hanswer fun pending =>
      ne_tagAfter_of_waiting hfresh hhistory hfew hover
  · exact fun bytes => after_message_of_none
  · exact fun bytes event => after_message_of_event
  · intro η handlers
    rw [events_afterAll, hfresh.events, List.nil_append, Handlers.deliver, List.filterMap_filterMap]

/-- A bus with one device that speaks HF2. -/
def soleBus : ScriptedBus :=
  { ScriptedBus.empty with
    devices := [⟨0x03eb, 0x2402, usagePage, none, some "board", "/dev/hidraw0"⟩] }

/-- The first command gets no answer in time; its answer comes after the second one was sent. -/
def belated : List Happening :=
  [.request 1, .release, .request 8, .message [1, 0, 0, 0, 5], .message [0xfd, 0xf9, 0x92, 0x36]]

/-- The second command is answered by its own reply only. -/
theorem answers_match_belated :
    ∃ link : Hf2Link ScriptedBus, connect .standard soleBus = .ok link ∧
      commands belated < 32767 ∧
      (link.afterAll belated).after (.message [1, 0, 0, 0, 5]) = link.afterAll belated ∧
      ((link.afterAll (belated ++ [.message [2, 0, 0, 0, 7]])).conclude 8).1 = .ok [7] ∧
      ((link.afterAll (belated ++ [.message [2, 0, 3, 4]])).conclude 8).1 =
        .error (.commandFailed 8 3 4) := by
  obtain ⟨link, hlink⟩ : ∃ link : Hf2Link ScriptedBus, connect .standard soleBus = .ok link :=
    ⟨_, rfl⟩
  have hturns (reply : Bytes) : ∀ happening ∈ belated.drop 3 ++ [.message reply],
      ¬happening.Turns := by
    simp [belated, Happening.Turns]
  have hends : ∀ happening ∈ belated.drop 3, ¬happening.Ends (tagAfter (belated.take 2)) := by
    have hnone : ∀ happening ∈ belated.drop 3, verdict? ⟨2, 8⟩ happening = none := by decide
    exact fun happening hmem => verdict?_eq_none.1 (hnone happening hmem)
  have hfew (reply : Bytes) : commands (belated ++ [.message reply]) < 32767 := by
    simp [commands, belated, List.countP_cons, Happening.isCommand]
  have hanswers (reply : Bytes) :=
    (answers_match hlink (hfew reply)).2.1 (belated.take 2) 8 _ ⟨rfl, hturns reply⟩
  refine ⟨link, hlink, by decide, ?_, ?_, ?_⟩
  · exact (answers_match hlink (by decide)).2.2.2.1 [] 1 _ _ _ _ _ rfl
      ⟨.release, by simp, trivial⟩ rfl
  · exact ((hanswers _).1 _).2 ⟨0, _, _, [], rfl, rfl, hends⟩
  · exact ((hanswers _).2 _ _ _).2 ⟨rfl, by decide, [], _, _, [], rfl, rfl, hends⟩

end Hf2Link

end BoardDebug
