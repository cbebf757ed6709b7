import BoardDebug.Proofs.Device.Requests

namespace BoardDebug.Memory

/-- Words that lie one behind the other from `address` on, each with its place. -/
def cells (address : UInt32) (words : List UInt32) : List (UInt32 × UInt32) :=
  words.mapIdx fun i word => (address + .ofNat (4 * i), word)

/-- The word that came last to a place. -/
def lastWritten (cells : List (UInt32 × UInt32)) (a : UInt32) : Option UInt32 :=
  cells.reverse.lookup a

/-- The memory after some words were written one by one. -/
def record (memory : Memory) (cells : List (UInt32 × UInt32)) : Memory :=
  cells.foldl (fun memory cell => memory.write cell.1 cell.2) memory

theorem cells_cons (address word : UInt32) (words : List UInt32) :
    cells address (word :: words) = (address, word) :: cells (address + 4) words := by
  have hnext (i : Nat) : address + .ofNat (4 * (i + 1)) = address + 4 + .ofNat (4 * i) := by
    rw [Nat.mul_add, Nat.add_comm, UInt32.ofNat_add, UInt32.add_assoc]
    rfl
  simp only [cells, List.mapIdx_cons, hnext]
  simp

theorem writeWords_eq_record (memory : Memory) (address : UInt32) (words : List UInt32) :
    memory.writeWords address words = memory.record (cells address words) := by
  induction words generalizing memory address with
  | nil => rfl
  | cons word words ih =>
    rw [writeWords, ih, cells_cons]
    rfl

theorem record_append (memory : Memory) (earlier later : List (UInt32 × UInt32)) :
    memory.record (earlier ++ later) = (memory.record earlier).record later :=
  List.foldl_append

theorem read_record (memory : Memory) (cells : List (UInt32 × UInt32)) (a : UInt32) :
    (memory.record cells).read a = (lastWritten cells a).getD (memory.read a) := by
  induction cells generalizing memory with
  | nil => rfl
  | cons cell cells ih =>
    obtain ⟨place, word⟩ := cell
    change ((memory.write place word).record cells).read a = _
    rw [ih, read_write, lastWritten, lastWritten, List.reverse_cons, List.lookup_append]
    cases cells.reverse.lookup a with
    | some _ => rfl
    | none =>
      by_cases h : a = place
      · simp [h]
      · simp [List.lookup_cons, beq_false_of_ne h, h]

end BoardDebug.Memory

namespace BoardDebug

/-- Whether an answer is the failure that was set up for a kind of requests. -/
def isInjected {α : Type} (kind : RequestKind) : Except LinkError α → Bool
  | .error (.injected other) => other == kind
  | _ => false

/-- Whether a device can make no sense of a request. -/
def Request.IsInvalid : Request → Prop
  | .talk opcode payload =>
    opcode ∉ [Opcode.getGlobals, Opcode.setBreakpoints, Opcode.resume] ∨
      opcode = Opcode.setBreakpoints ∧ payload.length % 4 ≠ 0
  | _ => False

namespace SimulatedDevice

/-- Whether a request succeeds. -/
def grants (d : SimulatedDevice) (request : Request) : Bool :=
  (d.serve request).answer.isOk

/-- The words that come to lie in memory with a request, each with its place. -/
def puts (d : SimulatedDevice) : Request → List (UInt32 × UInt32)
  | .writeWords address words => Memory.cells address words
  | .flash _ => [(d.globalsAddress, DebugStatus.disabled.word)]
  | _ => []

/-- What a request leaves behind that a device answers by itself. -/
structure Leaves (d : SimulatedDevice) (request : Request) (after : SimulatedDevice) : Prop where
  memory : after.memory = d.memory.record (d.puts request)
  haltedAt : after.haltedAt = if request.goes then d.halts.head? else d.haltedAt
  halts : after.halts = if request.goes then d.halts.tail else d.halts
  globalsAddress : after.globalsAddress = d.globalsAddress

/-- What comes of a request with an opcode that does not fail as it was set up to. -/
inductive Talks (d : SimulatedDevice) (payload : Bytes) :
    (opcode : UInt32) → Served SimulatedDevice (.talk opcode payload) → Prop
  | getGlobals : d.Talks payload Opcode.getGlobals
      ⟨.ok (wordBytes [d.globalCount, d.globalsAddress]), d, []⟩
  | arms {addresses : List UInt32} (h : words? payload = some addresses) :
      d.Talks payload Opcode.setBreakpoints ⟨.ok [], { d with armed := addresses }, []⟩
  | ragged (h : words? payload = none) : d.Talks payload Opcode.setBreakpoints
      ⟨.error (.malformed (.ragged payload.length)), d, []⟩
  | resumes : d.Talks payload Opcode.resume ⟨.ok [], d.run, d.run.pausedEvents d.run.haltedAt⟩
  | unknown {opcode : UInt32} (hglobals : opcode ≠ Opcode.getGlobals)
      (hbreakpoints : opcode ≠ Opcode.setBreakpoints) (hresume : opcode ≠ Opcode.resume) :
      d.Talks payload opcode ⟨.error (.commandFailed opcode 1 0), d, []⟩

variable {d : SimulatedDevice} {request : Request}

theorem talks_answer (d : SimulatedDevice) (opcode : UInt32) (payload : Bytes) :
    d.Talks payload opcode (d.answer (.talk opcode payload)) := by
  by_cases hglobals : opcode = Opcode.getGlobals
  · subst hglobals
    exact .getGlobals
  by_cases hbreakpoints : opcode = Opcode.setBreakpoints
  · subst hbreakpoints
    rw [answer, if_neg hglobals, if_pos rfl, readWords]
    cases hwords : words? payload with
    | some addresses => exact .arms hwords
    | none => exact .ragged hwords
  by_cases hresume : opcode = Opcode.resume
  · subst hresume
    exact .resumes
  · rw [answer, if_neg hglobals, if_neg hbreakpoints, if_neg hresume]
    exact .unknown hglobals hbreakpoints hresume

theorem leaves_answer (d : SimulatedDevice) (request : Request) :
    d.Leaves request (d.answer request).link := by
  cases request with
  | talk opcode payload =>
    have htalks := d.talks_answer opcode payload
    generalize d.answer (.talk opcode payload) = served at htalks ⊢
    cases htalks with
    | getGlobals => exact ⟨rfl, rfl, rfl, rfl⟩
    | arms => exact ⟨rfl, rfl, rfl, rfl⟩
    | ragged => exact ⟨rfl, rfl, rfl, rfl⟩
    | resumes => exact ⟨rfl, rfl, rfl, rfl⟩
    | unknown _ _ hresume =>
      have hgoes : (Request.talk opcode payload).goes = false := by
        simp [Request.goes, Request.starts, Request.kind, hresume]
      exact ⟨rfl, by simp [hgoes], by simp [hgoes], rfl⟩
  | readWords address count => exact ⟨rfl, rfl, rfl, rfl⟩
  | writeWords address words => exact ⟨d.memory.writeWords_eq_record address words, rfl, rfl, rfl⟩
  | flash image => exact ⟨rfl, rfl, rfl, rfl⟩
  | queryHalt => exact ⟨rfl, rfl, rfl, rfl⟩

/-- A device fails by itself where it can make no sense of a request, and then nothing happens to
it. -/
theorem answer_invalid (d : SimulatedDevice) (h : request.IsInvalid) :
    ∃ error, d.answer request = ⟨.error error, d, []⟩ ∧ ∀ kind, error ≠ .injected kind := by
  cases request with
  | talk opcode payload =>
    have htalks := d.talks_answer opcode payload
    generalize d.answer (.talk opcode payload) = served at htalks ⊢
    cases htalks with
    | getGlobals => simp [Request.IsInvalid, Opcode.getGlobals, Opcode.setBreakpoints] at h
    | arms hwords => simp [Request.IsInvalid, length_of_words? hwords] at h
    | resumes => simp [Request.IsInvalid, Opcode.resume, Opcode.setBreakpoints] at h
    | ragged => exact ⟨_, rfl, nofun⟩
    | unknown => exact ⟨_, rfl, nofun⟩
  | readWords address count => exact h.elim
  | writeWords address words => exact h.elim
  | flash image => exact h.elim
  | queryHalt => exact h.elim

theorem answer_valid (d : SimulatedDevice) (h : ¬ request.IsInvalid) :
    ∃ reply, (d.answer request).answer = .ok reply := by
  cases request with
  | talk opcode payload =>
    have htalks := d.talks_answer opcode payload
    generalize d.answer (.talk opcode payload) = served at htalks ⊢
    cases htalks with
    | ragged hwords => exact absurd (.inr ⟨rfl, length_mod_of_words? hwords⟩) h
    | unknown hglobals hbreakpoints hresume =>
      exact absurd (.inl (by simp [hglobals, hbreakpoints, hresume])) h
    | getGlobals => exact ⟨_, rfl⟩
    | arms => exact ⟨_, rfl⟩
    | resumes => exact ⟨_, rfl⟩
  | readWords address count => exact ⟨_, rfl⟩
  | writeWords address words => exact ⟨_, rfl⟩
  | flash image => exact ⟨_, rfl⟩
  | queryHalt => exact ⟨_, rfl⟩

/-! ### The ways a request can go -/

/-- What comes of a request. -/
inductive Serves (d : SimulatedDevice) (request : Request) :
    Served SimulatedDevice request → Prop
  | refused (h : d.refuses request) :
      d.Serves request ⟨.error (.unsupported "halt status queries"), d, []⟩
  | injected (hrefuses : d.refuses request = false) (h : request.kind ∈ d.failures) :
      d.Serves request ⟨.error (.injected request.kind), d.fail request, []⟩
  | invalid (hrefuses : d.refuses request = false) (hkind : request.kind ∉ d.failures)
      (h : request.IsInvalid) {error : LinkError} (herror : ∀ kind, error ≠ .injected kind) :
      d.Serves request ⟨.error error, d.note request, []⟩
  | granted (hrefuses : d.refuses request = false) (hkind : request.kind ∉ d.failures)
      (h : ¬ request.IsInvalid) {reply : request.Reply} {after : SimulatedDevice}
      {events : List Event} (hafter : (d.note request).Leaves request after)
      (hkeeps : after.capabilities = d.capabilities ∧ after.failures = d.failures) :
      d.Serves request ⟨.ok reply, after, events⟩

theorem serves (d : SimulatedDevice) (request : Request) :
    d.Serves request (d.serve request) := by
  by_cases hrefuses : d.refuses request
  · rw [serve, if_pos hrefuses]
    exact .refused hrefuses
  rw [Bool.not_eq_true] at hrefuses
  by_cases hkind : request.kind ∈ d.failures
  · rw [serve_injected hrefuses hkind]
    exact .injected hrefuses hkind
  rw [serve_answer hrefuses hkind]
  by_cases hinvalid : request.IsInvalid
  · obtain ⟨error, hanswer, herror⟩ := (d.note request).answer_invalid hinvalid
    rw [hanswer]
    exact .invalid hrefuses hkind hinvalid herror
  · obtain ⟨reply, hreply⟩ := (d.note request).answer_valid hinvalid
    have hafter := (d.note request).leaves_answer request
    have hkeeps := (d.note request).answer_keeps request
    generalize (d.note request).answer request = served at hreply hafter hkeeps
    obtain ⟨_, after, events⟩ := served
    obtain rfl := hreply
    exact .granted hrefuses hkind hinvalid hafter hkeeps

theorem grants_eq_false_iff : d.grants request = false ↔
    d.refuses request ∨ request.kind ∈ d.failures ∨ request.IsInvalid := by
  unfold grants
  have hserves := d.serves request
  generalize d.serve request = served at hserves ⊢
  cases hserves with
  | refused h => exact iff_of_true rfl (.inl h)
  | injected _ h => exact iff_of_true rfl (.inr (.inl h))
  | invalid _ _ h => exact iff_of_true rfl (.inr (.inr h))
  | granted hrefuses hkind h =>
    refine iff_of_false nofun ?_
    rw [hrefuses]
    exact not_or.2 ⟨nofun, not_or.2 ⟨hkind, h⟩⟩

/-- A request that is granted leaves what a device leaves that answers by itself. -/
theorem leaves_of_grants (h : d.grants request) :
    (d.note request).Leaves request (d.serve request).link := by
  unfold grants at h
  have hserves := d.serves request
  generalize d.serve request = served at h hserves ⊢
  cases hserves with
  | refused => cases h
  | injected => cases h
  | invalid => cases h
  | granted _ _ _ hafter _ => exact hafter

/-- A request that is not granted changes no more than what was set up to fail. -/
theorem serve_of_not_grants (hrefuses : d.refuses request = false) (h : d.grants request = false) :
    (d.serve request).link = d.fail request ∧ (d.serve request).events = [] := by
  unfold grants at h
  have hserves := d.serves request
  generalize d.serve request = served at h hserves ⊢
  cases hserves with
  | refused htrue => cases htrue.symm.trans hrefuses
  | injected => exact ⟨rfl, rfl⟩
  | invalid _ hkind =>
    refine ⟨?_, rfl⟩
    rw [fail, List.erase_of_not_mem hkind]
    rfl
  | granted => cases h

/-- Whatever comes of a request that is not granted, a device stays as it was but for what it
records and what was set up to fail. -/
theorem exists_link_of_not_grants (h : ¬ d.grants request) :
    ∃ log failures, (d.serve request).link = { d with log, failures } := by
  by_cases hrefuses : d.refuses request
  · exact ⟨d.log, d.failures, by rw [serve, if_pos hrefuses]⟩
  · rw [Bool.not_eq_true] at h hrefuses
    exact ⟨_, _, (serve_of_not_grants hrefuses h).1⟩

theorem keeps_serve (d : SimulatedDevice) (request : Request) :
    (d.serve request).link.capabilities = d.capabilities ∧ (d.serve request).link.failures =
      if d.refuses request then d.failures else d.failures.erase request.kind := by
  have hserves := d.serves request
  generalize d.serve request = served at hserves ⊢
  cases hserves with
  | refused h => exact ⟨rfl, (if_pos h).symm⟩
  | injected hrefuses => exact ⟨rfl, by rw [hrefuses]; rfl⟩
  | invalid hrefuses hkind =>
    refine ⟨rfl, ?_⟩
    rw [hrefuses, List.erase_of_not_mem hkind]
    rfl
  | granted hrefuses hkind _ _ hkeeps =>
    refine ⟨hkeeps.1, hkeeps.2.trans ?_⟩
    rw [hrefuses, List.erase_of_not_mem hkind]
    rfl

theorem isInjected_serve (d : SimulatedDevice) (request : Request) :
    isInjected request.kind (d.serve request).answer =
      (!d.refuses request && decide (request.kind ∈ d.failures)) := by
  have hserves := d.serves request
  generalize d.serve request = served at hserves ⊢
  cases hserves with
  | refused h => simp [h, isInjected]
  | injected hrefuses h => simp [hrefuses, h, isInjected]
  | invalid hrefuses hkind _ herror =>
    rename_i error
    cases error with
    | injected kind => exact absurd rfl (herror kind)
    | _ => simp [hrefuses, hkind, isInjected]
  | granted hrefuses hkind => simp [hrefuses, hkind, isInjected]

/-! ### Uses of a device -/

/-- What can be done with a simulated device. -/
inductive Use where
  | request (request : Request)
  | queueHalt (pc : UInt32)
  | haltNow (pc : UInt32)
  | inject (kind : RequestKind)
  | withGlobals (address : UInt32) (words : List UInt32)
deriving DecidableEq

def use (d : SimulatedDevice) : Use → SimulatedDevice
  | .request request => (d.serve request).link
  | .queueHalt pc => d.queueHalt pc
  | .haltNow pc => (d.haltNow pc).1
  | .inject kind => d.inject kind
  | .withGlobals address words => d.withGlobals address words

def after (d : SimulatedDevice) (uses : List Use) : SimulatedDevice :=
  uses.foldl use d

/-- What `f` tells of the uses one after the other, each with the device that it meets. -/
def along {α : Type} (f : SimulatedDevice → Use → List α) (d : SimulatedDevice) :
    List Use → List α
  | [] => []
  | u :: uses => f d u ++ along f (d.use u) uses

/-- The words that a use writes. -/
def written (d : SimulatedDevice) : Use → List (UInt32 × UInt32)
  | .request request => if d.grants request then d.puts request else []
  | .withGlobals address words => Memory.cells address (DebugStatus.disabled.word :: words)
  | _ => []

/-- The place at which the device stops when a use sets it going. -/
def stops (d : SimulatedDevice) : Use → List UInt32
  | .request request =>
    if request.goes && d.grants request then (d.serve request).link.haltedAt.toList else []
  | _ => []

/-- Whether a request of a kind fails as it was set up to. -/
def fates (kind : RequestKind) (d : SimulatedDevice) : Use → List Bool
  | .request request =>
    if request.kind = kind then [isInjected kind (d.serve request).answer] else []
  | _ => []

namespace Use

/-- The halt that a use queues. -/
def queued? : Use → Option UInt32
  | queueHalt pc => some pc
  | _ => none

/-- The place that a use gives to the status cell. -/
def cell? : Use → Option UInt32
  | withGlobals address _ => some address
  | _ => none

end Use

theorem memory_use (d : SimulatedDevice) (u : Use) :
    (d.use u).memory = d.memory.record (d.written u) := by
  cases u with
  | request request =>
    unfold use written
    dsimp only
    split
    case isTrue h => exact (leaves_of_grants h).memory
    case isFalse h =>
      obtain ⟨log, failures, hlink⟩ := exists_link_of_not_grants h
      rw [hlink]
      rfl
  | withGlobals address words => exact d.memory.writeWords_eq_record address _
  | _ => rfl

theorem globalsAddress_use (d : SimulatedDevice) (u : Use) :
    (d.use u).globalsAddress = u.cell?.getD d.globalsAddress := by
  cases u with
  | request request =>
    unfold use Use.cell?
    dsimp only
    by_cases h : d.grants request
    · exact (leaves_of_grants h).globalsAddress
    · obtain ⟨log, failures, hlink⟩ := exists_link_of_not_grants h
      rw [hlink]
      rfl
  | _ => rfl

theorem halts_use (d : SimulatedDevice) (u : Use) :
    d.halts ++ u.queued?.toList = d.stops u ++ (d.use u).halts := by
  cases u with
  | request request =>
    unfold use stops Use.queued?
    dsimp only
    rw [Option.toList_none, List.append_nil]
    by_cases h : d.grants request
    · obtain ⟨-, hhalted, hhalts, -⟩ := leaves_of_grants h
      rw [h, hhalted, hhalts, Bool.and_true]
      cases request.goes with
      | false => rfl
      | true =>
        change d.halts = d.halts.head?.toList ++ d.halts.tail
        cases d.halts <;> rfl
    · obtain ⟨log, failures, hlink⟩ := exists_link_of_not_grants h
      rw [Bool.not_eq_true] at h
      rw [h, Bool.and_false, hlink]
      rfl
  | queueHalt pc => rfl
  | _ => exact List.append_nil _

theorem capabilities_use (d : SimulatedDevice) (u : Use) :
    (d.use u).capabilities = d.capabilities := by
  cases u with
  | request request => exact (d.keeps_serve request).1
  | _ => rfl

/-- What a use means for the requests of a kind: it is one of them and uses up a failure, it is one
of them and there is no failure, or it is none of them. -/
theorem fates_use {kind : RequestKind} (hkind : kind = .queryHalt → d.capabilities.statusQuery)
    (u : Use) :
    (d.fates kind u = [true] ∧ [u].count (.inject kind) = 0 ∧
        d.failures.count kind = (d.use u).failures.count kind + 1) ∨
      (d.fates kind u = [false] ∧ [u].count (.inject kind) = 0 ∧
        d.failures.count kind = 0 ∧ (d.use u).failures.count kind = 0) ∨
      (d.fates kind u = [] ∧
        (d.use u).failures.count kind = d.failures.count kind + [u].count (.inject kind)) := by
  cases u with
  | request request =>
    have hfailures : (d.use (.request request)).failures = _ := (d.keeps_serve request).2
    rw [hfailures]
    unfold fates
    dsimp only
    by_cases hrequest : request.kind = kind
    · subst hrequest
      have hrefuses : d.refuses request = false := by
        by_cases hquery : request = .queryHalt
        · subst hquery
          rw [refuses, hkind rfl]
          rfl
        · exact refuses_of_ne hquery
      rw [if_pos rfl, isInjected_serve, hrefuses]
      by_cases hmem : request.kind ∈ d.failures
      · refine .inl ⟨by simp [hmem], rfl, ?_⟩
        have hpos := List.count_pos_iff.2 hmem
        rw [if_neg Bool.false_ne_true, List.count_erase_self]
        omega
      · refine .inr (.inl ⟨by simp [hmem], rfl, List.count_eq_zero.2 hmem, ?_⟩)
        rw [if_neg Bool.false_ne_true, List.erase_of_not_mem hmem]
        exact List.count_eq_zero.2 hmem
    · refine .inr (.inr ⟨if_neg hrequest, ?_⟩)
      split
      · rfl
      · exact List.count_erase_of_ne (Ne.symm hrequest)
  | inject other =>
    refine .inr (.inr ⟨rfl, ?_⟩)
    by_cases hother : other = kind
    · subst hother
      simp [use, inject]
    · simp [use, inject, hother]
  | _ => exact .inr (.inr ⟨rfl, rfl⟩)

/-! ### A whole run -/

theorem memory_after (d : SimulatedDevice) (uses : List Use) :
    (d.after uses).memory = d.memory.record (d.along written uses) := by
  induction uses generalizing d with
  | nil => rfl
  | cons u uses ih =>
    change ((d.use u).after uses).memory = _
    rw [ih, memory_use, ← Memory.record_append]
    rfl

theorem globalsAddress_after (d : SimulatedDevice) (uses : List Use) :
    (d.after uses).globalsAddress =
      (uses.filterMap Use.cell?).getLast?.getD d.globalsAddress := by
  induction uses generalizing d with
  | nil => rfl
  | cons u uses ih =>
    change ((d.use u).after uses).globalsAddress = _
    rw [ih, globalsAddress_use, List.filterMap_cons]
    cases u.cell? with
    | none => rfl
    | some address => rw [List.getLast?_cons]; rfl

/-- No halt that is queued is lost, and none comes before its turn. -/
theorem halts_after (d : SimulatedDevice) (uses : List Use) :
    d.halts ++ uses.filterMap Use.queued? = d.along stops uses ++ (d.after uses).halts := by
  induction uses generalizing d with
  | nil => exact List.append_nil _
  | cons u uses ih =>
    have hqueued : (u :: uses).filterMap Use.queued? =
        u.queued?.toList ++ uses.filterMap Use.queued? := by
      rw [List.filterMap_cons]
      cases u.queued? <;> rfl
    rw [hqueued, ← List.append_assoc, halts_use, List.append_assoc, ih, ← List.append_assoc]
    rfl

theorem capabilities_after (d : SimulatedDevice) (uses : List Use) :
    (d.after uses).capabilities = d.capabilities := by
  induction uses generalizing d with
  | nil => rfl
  | cons u uses ih => exact (ih (d.use u)).trans (d.capabilities_use u)

section Fates

variable {kind : RequestKind}

/-- The failures that are still to happen hit the next requests of their kind. -/
theorem fates_take (hkind : kind = .queryHalt → d.capabilities.statusQuery) (uses : List Use) :
    ∀ failed ∈ (d.along (fates kind) uses).take (d.failures.count kind), failed = true := by
  induction uses generalizing d with
  | nil => simp [along]
  | cons u uses ih =>
    have hrest := ih (d := d.use u) (by rwa [capabilities_use])
    rw [along]
    obtain ⟨hfates, -, hcount⟩ | ⟨hfates, -, hcount, -⟩ | ⟨hfates, hcount⟩ := fates_use hkind u
    · rw [hfates, hcount]
      exact List.forall_mem_cons.2 ⟨rfl, hrest⟩
    · rw [hcount]
      exact nofun
    · intro failed hfailed
      rw [hfates, List.nil_append] at hfailed
      exact hrest failed (List.take_subset_take_left _ (by omega) hfailed)

/-- Further requests of their kind do not fail so, unless another failure is set up. -/
theorem fates_drop (hkind : kind = .queryHalt → d.capabilities.statusQuery) {uses : List Use}
    (h : .inject kind ∉ uses) :
    ∀ failed ∈ (d.along (fates kind) uses).drop (d.failures.count kind), failed = false := by
  induction uses generalizing d with
  | nil => simp [along]
  | cons u uses ih =>
    obtain ⟨hu, huses⟩ := List.ne_and_not_mem_of_not_mem_cons h
    have hrest := ih (d := d.use u) (by rwa [capabilities_use]) huses
    rw [along]
    obtain ⟨hfates, -, hcount⟩ | ⟨hfates, -, hcount, hnone⟩ | ⟨hfates, hcount⟩ := fates_use hkind u
    · rw [hfates, hcount]
      exact hrest
    · rw [hnone] at hrest
      rw [hfates, hcount]
      exact List.forall_mem_cons.2 ⟨rfl, hrest⟩
    · have hinject : [u].count (.inject kind) = 0 := List.count_eq_zero.2 (by simpa using hu)
      rw [hinject, Nat.add_zero] at hcount
      rw [hfates, ← hcount]
      exact hrest

/-- A failure that was set up happens once or is still to happen. -/
theorem count_failures_after (hkind : kind = .queryHalt → d.capabilities.statusQuery)
    (uses : List Use) :
    (d.after uses).failures.count kind + (d.along (fates kind) uses).count true =
      d.failures.count kind + uses.count (.inject kind) := by
  induction uses generalizing d with
  | nil => rfl
  | cons u uses ih =>
    have hrest := ih (d := d.use u) (by rwa [capabilities_use])
    change ((d.use u).after uses).failures.count kind +
      (d.fates kind u ++ (d.use u).along (fates kind) uses).count true =
        d.failures.count kind + ([u] ++ uses).count (.inject kind)
    rw [List.count_append, List.count_append]
    obtain ⟨hfates, hinject, hcount⟩ | ⟨hfates, hinject, hcount, hnone⟩ | ⟨hfates, hcount⟩ :=
      fates_use hkind u
    · rw [hfates, hinject, List.count_singleton_self]
      omega
    · have hfalse : [false].count true = 0 := rfl
      rw [hfates, hinject, hfalse]
      omega
    · rw [hfates, List.count_nil]
      omega

end Fates

/-- A request does what it should or fails without a trace but in the log. -/
structure FailsCleanly (d : SimulatedDevice) (request : Request) : Prop where
  causes : d.grants request = false ↔
    d.refuses request ∨ request.kind ∈ d.failures ∨ request.IsInvalid
  recorded : d.refuses request = false → d.grants request = false →
    (d.serve request).link = { d with
      log := d.log ++ [Operation.ofRequest request]
      failures := d.failures.erase request.kind }
  silent : d.grants request = false → (d.serve request).events = []

/-- The failures of a kind that are to happen, against the uses to come. -/
structure FailsInTurn (d : SimulatedDevice) (kind : RequestKind) (later : List Use) : Prop where
  /-- They hit the next requests of their kind. -/
  next : ∀ failed ∈ (d.along (fates kind) later).take (d.failures.count kind), failed = true
  /-- They hit no further one. -/
  others : .inject kind ∉ later →
    ∀ failed ∈ (d.along (fates kind) later).drop (d.failures.count kind), failed = false
  /-- Each of them is used up when it hits. -/
  usedUp : (d.after later).failures.count kind + (d.along (fates kind) later).count true =
    d.failures.count kind + later.count (.inject kind)

/-- What becomes of `start` after some uses. -/
structure IsFaithful (start : SimulatedDevice) (uses : List Use) (d : SimulatedDevice) : Prop where
  /-- A read gives the word that was last written to each place, or zero. -/
  reads : ∀ address count, (d.serve (.readWords address count)).answer =
    if .readWords ∈ d.failures then .error (.injected .readWords)
    else .ok ((List.range count.toNat).map fun i =>
      (Memory.lastWritten (start.along written uses) (address + .ofNat (4 * i))).getD 0)
  /-- The status cell is where the globals were put last. -/
  cell : d.globalsAddress = (uses.filterMap Use.cell?).getLast?.getD 0x20000000
  /-- The halts that were queued are taken one by one. -/
  queue : uses.filterMap Use.queued? = start.along stops uses ++ d.halts
  /-- When it is set going it stops at the first queued halt that is left, if any. -/
  halted : ∀ request : Request, request.goes → d.grants request →
    (d.serve request).link.haltedAt =
      ((uses.filterMap Use.queued?).drop (start.along stops uses).length).head?
  failures : ∀ (kind : RequestKind) (later : List Use),
    (kind = .queryHalt → start.capabilities.statusQuery) → d.FailsInTurn kind later
  requests : ∀ request, d.FailsCleanly request
  /-- A query that it does not support leaves it as it is. -/
  refusal : start.capabilities.statusQuery = false →
    d.serve .queryHalt = ⟨.error (.unsupported "halt status queries"), d, []⟩

theorem failsCleanly (d : SimulatedDevice) (request : Request) : d.FailsCleanly request where
  causes := grants_eq_false_iff
  recorded := fun hrefuses h => (serve_of_not_grants hrefuses h).1
  silent := fun h => by
    by_cases hrefuses : d.refuses request
    · rw [serve, if_pos hrefuses]
    · rw [Bool.not_eq_true] at hrefuses
      exact (serve_of_not_grants hrefuses h).2

theorem reads_after (capabilities : Capabilities) (uses : List Use) (address count : UInt32) :
    (((new capabilities).after uses).serve (.readWords address count)).answer =
      if .readWords ∈ ((new capabilities).after uses).failures then .error (.injected .readWords)
      else .ok ((List.range count.toNat).map fun i => (Memory.lastWritten
        ((new capabilities).along written uses) (address + .ofNat (4 * i))).getD 0) := by
  have hmemory := (new capabilities).memory_after uses
  generalize (new capabilities).after uses = d at hmemory ⊢
  split
  case isTrue h => rw [serve_injected rfl h]; rfl
  case isFalse h =>
    rw [serve_answer rfl h]
    refine congrArg Except.ok (List.map_congr_left fun i _ => ?_)
    change d.memory.read _ = _
    rw [hmemory, Memory.read_record]
    rfl

/-- A simulated device is a memory, a queue of halts and a set of failures that come in turn, and
what fails changes none of them. -/
theorem isFaithful_new (capabilities : Capabilities) (uses : List Use) :
    (new capabilities).IsFaithful uses ((new capabilities).after uses) := by
  have hqueue : uses.filterMap Use.queued? = _ := (new capabilities).halts_after uses
  have hcapabilities := (new capabilities).capabilities_after uses
  exact {
    reads := reads_after capabilities uses
    cell := (new capabilities).globalsAddress_after uses
    queue := hqueue
    halted := fun request hgoes h => by
      rw [hqueue, List.drop_left]
      exact (leaves_of_grants h).haltedAt.trans (if_pos hgoes)
    failures := fun kind later hkind => by
      rw [← hcapabilities] at hkind
      exact ⟨fates_take hkind later, fates_drop hkind, count_failures_after hkind later⟩
    requests := failsCleanly _
    refusal := fun h => by
      rw [← hcapabilities] at h
      rw [serve, refuses, h]
      rfl }

/-- The failure that was set up hits the first of two writes. -/
example : (new ⟨true, false⟩).along (fates .writeWords) [.inject .writeWords,
    .request (.readWords 0x20000000 2), .request (.writeWords 0x20000004 [5]), .inject .flash,
    .request (.writeWords 0x20000004 [6])] = [true, false] := by
  decide

end SimulatedDevice

end BoardDebug
