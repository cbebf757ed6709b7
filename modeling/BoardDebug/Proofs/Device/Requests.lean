import BoardDebug.Device.Simulated
import BoardDebug.Proofs.Bytes

namespace BoardDebug.Memory

/-- A word in the first place of an area leaves the other places alone, unless the area reaches past
the last address. -/
theorem tail_readWords_write (memory : Memory) {address : UInt32} {count : Nat}
    (h : address.toNat + 4 * count ≤ UInt32.size) (word : UInt32) :
    ((memory.write address word).readWords address count).tail =
      (memory.readWords address count).tail := by
  unfold readWords
  rw [← List.map_tail, ← List.map_tail]
  refine List.map_congr_left fun i hi => ?_
  rw [List.tail_range, List.mem_range'_1] at hi
  have hne : address + .ofNat (4 * i) ≠ address := by
    intro heq
    have hnat := congrArg UInt32.toNat heq
    simp only [UInt32.toNat_add, UInt32.toNat_ofNat'] at hnat
    unfold UInt32.size at h
    omega
  rw [read_write, if_neg hne]

variable (memory : Memory) (address : UInt32)

theorem readWords_add (first later : Nat) :
    memory.readWords address (first + later) = memory.readWords address first ++
      memory.readWords (address + .ofNat (4 * first)) later := by
  unfold readWords
  rw [List.range_add, List.map_append, List.map_map]
  congr 1
  refine List.map_congr_left fun i _ => ?_
  rw [Function.comp_apply, Nat.mul_add, UInt32.ofNat_add, UInt32.add_assoc]

/-- A read that is cut off at some number of words, and goes on behind it. -/
theorem readWords_min (count size : Nat) :
    memory.readWords address (min count size) ++
      memory.readWords (address + .ofNat (4 * size)) (count - size) =
      memory.readWords address count := by
  obtain hle | hle := Nat.le_total count size
  · rw [Nat.min_eq_left hle, Nat.sub_eq_zero_of_le hle]
    exact List.append_nil _
  · rw [Nat.min_eq_right hle, ← readWords_add, Nat.add_sub_cancel' hle]

theorem writeWords_append (words later : List UInt32) :
    memory.writeWords address (words ++ later) = (memory.writeWords address words).writeWords
      (address + .ofNat (4 * words.length)) later := by
  induction words generalizing memory address with
  | nil => simp [writeWords]
  | cons word words ih =>
    have hnext : address + 4 + .ofNat (4 * words.length) =
        address + .ofNat (4 * (word :: words).length) := by
      rw [List.length_cons, Nat.mul_add, Nat.add_comm, UInt32.ofNat_add, UInt32.add_assoc]
      rfl
    rw [List.cons_append, writeWords, ih, hnext]
    rfl

/-- A write that is cut off at some number of words, and goes on behind it. -/
theorem writeWords_take (words : List UInt32) (size : Nat) :
    (memory.writeWords address (words.take size)).writeWords (address + .ofNat (4 * size))
      (words.drop size) = memory.writeWords address words := by
  obtain hle | hle := Nat.le_total words.length size
  · rw [List.take_of_length_le hle, List.drop_of_length_le hle]
    rfl
  · have happend := memory.writeWords_append address (words.take size) (words.drop size)
    rw [List.take_append_drop, List.length_take_of_le hle] at happend
    exact happend.symm

/-- Words come to lie one behind the other from `address` on, and all else stays as it was. -/
structure Stores (before : Memory) (address : UInt32) (words : List UInt32) (after : Memory) :
    Prop where
  inside : ∀ (i : Nat) (h : i < words.length),
    after.read (.ofNat (address.toNat + 4 * i)) = words[i]
  outside : ∀ a : UInt32, (∀ i < words.length, a.toNat ≠ address.toNat + 4 * i) →
    after.read a = before.read a

theorem stores_writeWords (memory : Memory) {address : UInt32} {words : List UInt32}
    (h : address.toNat + 4 * words.length ≤ UInt32.size) :
    memory.Stores address words (memory.writeWords address words) := by
  induction words generalizing memory address with
  | nil => exact ⟨fun i hi => absurd hi (Nat.not_lt_zero i), fun a _ => rfl⟩
  | cons word words ih =>
    rw [List.length_cons] at h
    -- There is no word behind the last address, so the next one matters only if it does not wrap.
    have hnext (i : Nat) (hi : i < words.length) : (address + 4).toNat = address.toNat + 4 := by
      rw [UInt32.toNat_add]
      exact Nat.mod_eq_of_lt (by change address.toNat + 4 < UInt32.size; omega)
    have hrest : (address + 4).toNat + 4 * words.length ≤ UInt32.size := by
      cases words with
      | nil => exact Nat.le_of_lt (address + 4).toNat_lt
      | cons _ _ =>
        rw [hnext 0 (Nat.zero_lt_succ _)]
        omega
    obtain ⟨hinside, houtside⟩ := ih (memory.write address word) hrest
    refine ⟨fun i hi => ?_, fun a ha => ?_⟩
    · cases i with
      | zero =>
        have hne (i : Nat) (hi : i < words.length) :
            address.toNat ≠ (address + 4).toNat + 4 * i := by
          rw [hnext i hi]
          omega
        rw [Nat.mul_zero, Nat.add_zero, UInt32.ofNat_toNat]
        exact (houtside address hne).trans (if_pos rfl)
      | succ i =>
        have hi : i < words.length := Nat.lt_of_succ_lt_succ hi
        have hplace : address.toNat + 4 * (i + 1) = (address + 4).toNat + 4 * i := by
          rw [hnext i hi]
          omega
        rw [hplace]
        exact hinside i hi
    · have hne : a ≠ address := by
        rintro rfl
        exact ha 0 (Nat.zero_lt_succ _) rfl
      refine (houtside a fun i hi => ?_).trans (if_neg hne)
      rw [hnext i hi]
      have hplace := ha (i + 1) (Nat.succ_lt_succ hi)
      omega

end BoardDebug.Memory

namespace BoardDebug

namespace SimulatedDevice

/-- The globals area that a device tells of. -/
def area (d : SimulatedDevice) : GlobalsArea := ⟨d.globalCount, d.globalsAddress⟩

/-- Records a request. -/
def note (d : SimulatedDevice) (request : Request) : SimulatedDevice :=
  { d with log := d.log ++ [Operation.ofRequest request] }

/-- Records a request that fails as it was set up to. -/
def fail (d : SimulatedDevice) (request : Request) : SimulatedDevice :=
  { d.note request with failures := d.failures.erase request.kind }

/-- Takes a request that arms addresses. -/
def arm (d : SimulatedDevice) (addresses : List UInt32) : SimulatedDevice :=
  { d.note (.setBreakpoints addresses) with armed := addresses }

/-- Takes words. -/
def store (d : SimulatedDevice) (address : UInt32) (words : List UInt32) : SimulatedDevice :=
  { d.note (.writeWords address words) with memory := d.memory.writeWords address words }

/-- Takes an image and starts it. -/
def boot (d : SimulatedDevice) (image : Image) : SimulatedDevice :=
  ({ d.note (.flash image) with
    flashed := some image
    memory := d.memory.write d.globalsAddress DebugStatus.disabled.word } : SimulatedDevice).run

theorem length_readWords (memory : Memory) (address : UInt32) (count : Nat) :
    (memory.readWords address count).length = count := by
  simp [Memory.readWords]

end SimulatedDevice

namespace Request

/-- Whether a request starts an image. -/
def starts (request : Request) : Bool :=
  request.kind = .flash

/-- Whether a request sets the device going. -/
def goes (request : Request) : Bool :=
  request.starts || request.kind = .talk Opcode.resume

/-- Whether a simulated device grants a request. -/
def IsGranted (request : Request) : Prop :=
  request ≠ .queryHalt ∧ ∀ d : SimulatedDevice, ∃ reply, (d.answer request).answer = .ok reply

theorem isGranted_getGlobals : (talk Opcode.getGlobals []).IsGranted := ⟨nofun, fun _ => ⟨_, rfl⟩⟩

theorem isGranted_setBreakpoints (addresses : List UInt32) :
    (setBreakpoints addresses).IsGranted := by
  refine ⟨nofun, fun d => ⟨([] : Bytes), ?_⟩⟩
  have hcode : Opcode.setBreakpoints ≠ Opcode.getGlobals := by decide
  simp [setBreakpoints, SimulatedDevice.answer, hcode]

theorem isGranted_resume : resume.IsGranted := ⟨nofun, fun _ => ⟨([] : Bytes), rfl⟩⟩

theorem isGranted_readWords (address count : UInt32) : (readWords address count).IsGranted :=
  ⟨nofun, fun _ => ⟨_, rfl⟩⟩

theorem isGranted_writeWords (address : UInt32) (words : List UInt32) :
    (writeWords address words).IsGranted :=
  ⟨nofun, fun _ => ⟨_, rfl⟩⟩

theorem isGranted_flash (image : Image) : (flash image).IsGranted := ⟨nofun, fun _ => ⟨_, rfl⟩⟩

end Request

namespace SimulatedDevice

/-- What a device can do, and what was set up to fail, stays when it answers. -/
theorem answer_keeps (d : SimulatedDevice) (request : Request) :
    (d.answer request).link.capabilities = d.capabilities ∧
      (d.answer request).link.failures = d.failures := by
  cases request with
  | talk opcode payload =>
    unfold answer
    dsimp only
    split
    · exact ⟨rfl, rfl⟩
    split
    · split <;> exact ⟨rfl, rfl⟩
    split <;> exact ⟨rfl, rfl⟩
  | readWords address count => exact ⟨rfl, rfl⟩
  | writeWords address words => exact ⟨rfl, rfl⟩
  | flash image => exact ⟨rfl, rfl⟩
  | queryHalt => exact ⟨rfl, rfl⟩

/-- Where a request makes a device halt, if it does. -/
def haltFrom (d : SimulatedDevice) (request : Request) : Option UInt32 :=
  if request.goes then d.halts.head? else none

theorem events_answer (d : SimulatedDevice) (request : Request) :
    (d.answer request).events = d.pausedEvents (d.haltFrom request) := by
  unfold haltFrom
  cases request with
  | talk opcode payload =>
    have hgoes : (Request.talk opcode payload).goes = decide (opcode = Opcode.resume) := by
      simp [Request.goes, Request.starts, Request.kind]
    have hother : Opcode.resume ≠ Opcode.getGlobals ∧ Opcode.resume ≠ Opcode.setBreakpoints := by
      decide
    rw [hgoes]
    by_cases hresume : opcode = Opcode.resume
    · simp [answer, hresume, hother, run]
      rfl
    · simp only [answer, hresume, decide_false, if_false, Bool.false_eq_true]
      split
      · rfl
      split
      · split <;> rfl
      rfl
  | readWords address count => rfl
  | writeWords address words => rfl
  | flash image => rfl
  | queryHalt => rfl

section Serve

variable {d : SimulatedDevice} {request : Request}

theorem refuses_of_ne (h : request ≠ .queryHalt) : d.refuses request = false := by
  simp [refuses, h]

theorem serve_injected (hrefuses : d.refuses request = false) (h : request.kind ∈ d.failures) :
    d.serve request = ⟨.error (.injected request.kind), d.fail request, []⟩ := by
  simp [serve, hrefuses, h, fail, note]

theorem serve_answer (hrefuses : d.refuses request = false) (h : request.kind ∉ d.failures) :
    d.serve request = (d.note request).answer request := by
  simp [serve, hrefuses, h, note]

end Serve

end SimulatedDevice

open Call.Run

/-! Requests to a simulated device. Each of them fails if a failure of its kind was set up. -/

namespace Routine

variable {σ : Type} {notify : Event → σ → σ} {s : σ} {d : SimulatedDevice}
  {bad : SessionError → σ → SimulatedDevice → Prop}

theorem run_ask_fail (request : Request) (hrequest : request ≠ .queryHalt)
    (h : request.kind ∈ d.failures) :
    run notify (ask request) s d =
      ⟨some (.error (.link (.injected request.kind))), s, d.fail request⟩ := by
  have hserve : Link.serve d request = ⟨.error (.injected request.kind), d.fail request, []⟩ :=
    SimulatedDevice.serve_injected (SimulatedDevice.refuses_of_ne hrequest) h
  rw [run_ask, hserve]
  rfl

theorem serve_answer (request : Request) (hrequest : request ≠ .queryHalt)
    (h : request.kind ∉ d.failures) : Link.serve d request = (d.note request).answer request :=
  SimulatedDevice.serve_answer (SimulatedDevice.refuses_of_ne hrequest) h

theorem ends_setBreakpoints {addresses : List UInt32}
    {ok : (Request.setBreakpoints addresses).Reply → σ → SimulatedDevice → Prop} :
    (run notify (ask (.setBreakpoints addresses)) s d).Ends ok bad ↔
      if .talk Opcode.setBreakpoints ∈ d.failures then
        bad (.link (.injected (.talk Opcode.setBreakpoints))) s (d.fail (.setBreakpoints addresses))
      else ok ([] : Bytes) s (d.arm addresses) := by
  split
  case isTrue h =>
    rw [run_ask_fail _ (by nofun) h]
    rfl
  case isFalse h =>
    have hserve : (d.note (.setBreakpoints addresses)).answer (.setBreakpoints addresses) =
        ⟨.ok ([] : Bytes), d.arm addresses, []⟩ := by
      have hcode : Opcode.setBreakpoints ≠ Opcode.getGlobals := by decide
      simp [Request.setBreakpoints, SimulatedDevice.answer, hcode, SimulatedDevice.arm]
    rw [run_ask, serve_answer _ (by nofun) h, hserve]
    rfl

theorem ends_writeWords {ok : Unit → σ → SimulatedDevice → Prop} (address : UInt32)
    (words : List UInt32) :
    (run notify (ask (.writeWords address words)) s d).Ends ok bad ↔
      if .writeWords ∈ d.failures then
        bad (.link (.injected .writeWords)) s (d.fail (.writeWords address words))
      else ok () s (d.store address words) := by
  split
  case isTrue h => rw [run_ask_fail _ (by nofun) h, ends_error]; rfl
  case isFalse h =>
    rw [run_ask, serve_answer _ (by nofun) h]
    rfl

theorem ends_flash {ok : Unit → σ → SimulatedDevice → Prop} (image : Image) :
    (run notify (ask (.flash image)) s d).Ends ok bad ↔
      if .flash ∈ d.failures then bad (.link (.injected .flash)) s (d.fail (.flash image))
      else
        ok () ((d.pausedEvents d.halts.head?).foldl (fun s e => notify e s) s) (d.boot image) := by
  split
  case isTrue h => rw [run_ask_fail _ (by nofun) h, ends_error]; rfl
  case isFalse h =>
    rw [run_ask, serve_answer _ (by nofun) h]
    rfl

theorem ends_resume {ok : Request.resume.Reply → σ → SimulatedDevice → Prop} :
    (run notify (ask .resume) s d).Ends ok bad ↔
      if .talk Opcode.resume ∈ d.failures then
        bad (.link (.injected (.talk Opcode.resume))) s (d.fail .resume)
      else
        ok ([] : Bytes) ((d.pausedEvents d.halts.head?).foldl (fun s e => notify e s) s)
          (d.note .resume).run := by
  split
  case isTrue h =>
    rw [run_ask_fail _ (by nofun) h]
    rfl
  case isFalse h =>
    rw [run_ask, serve_answer _ (by nofun) h]
    rfl

end Routine

variable {σ : Type} {notify : Event → σ → σ} {s : σ} {d : SimulatedDevice}
  {bad : SessionError → σ → SimulatedDevice → Prop}

theorem GlobalsArea.ends_fetch {ok : GlobalsArea → σ → SimulatedDevice → Prop} :
    (Routine.run notify fetch s d).Ends ok bad ↔
      if .talk Opcode.getGlobals ∈ d.failures then
        bad (.link (.injected (.talk Opcode.getGlobals))) s (d.fail (.talk Opcode.getGlobals []))
      else ok d.area s (d.note (.talk Opcode.getGlobals [])) := by
  unfold fetch
  rw [Routine.ends_bind]
  split
  case isTrue h => rw [Routine.run_ask_fail _ (by nofun) h, ends_error]; rfl
  case isFalse h =>
    have hreply : ofReply (wordBytes [d.globalCount, d.globalsAddress]) = .ok d.area :=
      ofReply_eq_ok_iff.2 (List.prefix_refl _)
    rw [Routine.run_ask, Routine.serve_answer _ (by nofun) h]
    simp only [SimulatedDevice.answer, if_true, List.foldl_nil, ends_ok, SimulatedDevice.note,
      hreply, Routine.run_pure]

theorem Snapshot.ends_take {ok : Snapshot → σ → SimulatedDevice → Prop} (area : GlobalsArea)
    (index : ProcedureIndex) (pc : Option UInt32) :
    (Routine.run notify (take area index pc) s d).Ends ok bad ↔
      if .readWords ∈ d.failures then
        bad (.link (.injected .readWords)) s (d.fail (.readWords area.address area.count))
      else
        ok ⟨pc, .ofArea (d.memory.readWords area.address area.count.toNat) index⟩ s
          (d.note (.readWords area.address area.count)) := by
  unfold take
  rw [Routine.ends_bind]
  split
  case isTrue h => rw [Routine.run_ask_fail _ (by nofun) h, ends_error]; rfl
  case isFalse h =>
    rw [Routine.run_ask, Routine.serve_answer _ (by nofun) h]
    simp only [SimulatedDevice.answer, List.foldl_nil, ends_ok, SimulatedDevice.note,
      SimulatedDevice.length_readWords, if_true, Routine.run_pure]

end BoardDebug
