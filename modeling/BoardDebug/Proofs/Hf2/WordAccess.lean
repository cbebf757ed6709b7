import BoardDebug.Proofs.Hf2.Serving

namespace BoardDebug

namespace Hf2

/-- Asks for words. -/
def Move.readWords (address : UInt32) (count : Nat) : Move :=
  .ask Command.readWords (wordBytes [address, .ofNat count])

/-- Hands words over. -/
def Move.writeWords (address : UInt32) (words : List UInt32) : Move :=
  .ask Command.writeWords (wordBytes [address, .ofNat words.length] ++ wordBytes words)

/-- A command, with how its reply is read. -/
structure Step (γ : Type) where
  command : UInt32
  payload : Bytes
  read : Bytes → Except LinkError γ

namespace Step

variable {γ χ : Type}

def move (step : Step γ) : Move := .ask step.command step.payload

/-- Gives the command, and reads the reply. -/
def take [Channel χ] (step : Step γ) (channel : χ) : Except LinkError γ × χ :=
  let (result, channel) := Channel.ask channel step.command step.payload
  (result.bind step.read, channel)

end Step

namespace Dialogue

variable {α β γ χ : Type} [Channel χ]

instance : LawfulMonad Dialogue :=
  LawfulMonad.mk' Dialogue
    (fun dialogue => by
      change Dialogue.bind pure dialogue = dialogue
      induction dialogue with
      | done result => cases result <;> rfl
      | ask command payload next ih => exact congrArg (ask command payload) (funext ih)
      | tell command next ih => exact congrArg (tell command) ih
      | reopen next ih => exact congrArg reopen ih)
    (fun _ _ => rfl)
    (fun dialogue f g => by
      change Dialogue.bind g (Dialogue.bind f dialogue) =
        Dialogue.bind (fun a => Dialogue.bind g (f a)) dialogue
      induction dialogue with
      | done result => cases result <;> rfl
      | ask command payload next ih => exact congrArg (ask command payload) (funext ih)
      | tell command next ih => exact congrArg (tell command) ih
      | reopen next ih => exact congrArg reopen ih)

/-- One step. -/
def one (step : Step γ) : Dialogue γ := do
  let reply ← request step.command step.payload
  done (step.read reply)

/-- Steps one after the other. -/
def each : List (Step γ) → Dialogue (List γ)
  | [] => return []
  | step :: steps => do
    let first ← one step
    let others ← each steps
    return first :: others

theorem each_cons (step : Step γ) (steps : List (Step γ)) :
    each (step :: steps) = one step >>= fun first => List.cons first <$> each steps := by
  simp only [each, bind_pure_comp]

theorem run_map (f : α → β) (dialogue : Dialogue α) (channel : χ) :
    (f <$> dialogue).run channel =
      ((dialogue.run channel).1.map f, (dialogue.run channel).2) := by
  rw [← bind_pure_comp, run_bind]
  obtain ⟨result, channel⟩ := dialogue.run channel
  cases result <;> rfl

theorem turns_map (f : α → β) (dialogue : Dialogue α) (channel : χ) :
    (f <$> dialogue).turns channel = dialogue.turns channel := by
  rw [← bind_pure_comp, turns_bind]
  obtain ⟨result, channel'⟩ := dialogue.run channel
  cases result <;> exact List.append_nil _

theorem run_one (step : Step γ) (channel : χ) : (one step).run channel = step.take channel := by
  unfold one Step.take
  simp only [run_bind, request, run]
  obtain ⟨result, channel⟩ := Channel.ask channel step.command step.payload
  cases result <;> rfl

theorem turns_one (step : Step γ) (channel : χ) :
    (one step).turns channel = [⟨step.move, channel⟩] := by
  unfold one
  simp only [turns_bind, request, turns, run]
  obtain ⟨result, channel⟩ := Channel.ask channel step.command step.payload
  cases result <;> rfl

theorem run_each_cons (step : Step γ) (steps : List (Step γ)) (channel : χ) :
    (each (step :: steps)).run channel =
      match step.take channel with
      | (.ok first, channel) =>
        (((each steps).run channel).1.map (List.cons first), ((each steps).run channel).2)
      | (.error error, channel) => (.error error, channel) := by
  rw [each_cons, run_bind, run_one]
  obtain ⟨result, channel⟩ := step.take channel
  cases result with
  | error error => rfl
  | ok first => exact run_map _ _ _

theorem turns_each_cons (step : Step γ) (steps : List (Step γ)) (channel : χ) :
    (each (step :: steps)).turns channel = ⟨step.move, channel⟩ ::
      match step.take channel with
      | (.ok _, channel) => (each steps).turns channel
      | (.error _, _) => [] := by
  rw [each_cons, turns_bind, turns_one, run_one]
  obtain ⟨result, channel⟩ := step.take channel
  cases result with
  | error error => rfl
  | ok first => exact congrArg (_ :: ·) (turns_map _ _ _)

/-- Steps are done from the first on. -/
theorem said_each (steps : List (Step γ)) (channel : χ) :
    Turn.said ((each steps).turns channel) <+: steps.map Step.move := by
  induction steps generalizing channel with
  | nil => exact List.prefix_rfl
  | cons step steps ih =>
    rw [turns_each_cons]
    refine (List.prefix_cons_inj _).2 ?_
    obtain ⟨result, channel⟩ := step.take channel
    cases result with
    | error error => exact List.nil_prefix
    | ok first => exact ih channel

variable {steps : List (Step γ)} {channel : χ}

theorem said_each_of_ok {results : List γ} (h : ((each steps).run channel).1 = .ok results) :
    Turn.said ((each steps).turns channel) = steps.map Step.move := by
  induction steps generalizing channel results with
  | nil => rfl
  | cons step steps ih =>
    rw [run_each_cons] at h
    rw [turns_each_cons]
    generalize step.take channel = taken at h ⊢
    obtain ⟨result, channel⟩ := taken
    cases result with
    | error error => cases h
    | ok first =>
      cases hrest : ((each steps).run channel).1 with
      | error error =>
        simp only [hrest] at h
        cases h
      | ok others => exact congrArg (step.move :: ·) (ih hrest)

/-- The turn with number `k` does the step with that number. If it fails, it is the last one. -/
theorem each_stops {before after : List (Turn χ)} {turn : Turn χ}
    (h : (each steps).turns channel = before ++ turn :: after) :
    ∃ step, steps[before.length]? = some step ∧ turn.move = step.move ∧
      ∀ error, turn.result.bind step.read = .error error →
        after = [] ∧ ((each steps).run channel).1 = .error error := by
  induction steps generalizing channel before with
  | nil => cases before <;> cases h
  | cons step steps ih =>
    have htake : (step.take channel).1 =
        (⟨step.move, channel⟩ : Turn χ).result.bind step.read := rfl
    rw [turns_each_cons] at h
    rw [run_each_cons]
    generalize step.take channel = taken at h htake ⊢
    obtain ⟨result, next⟩ := taken
    cases before with
    | nil =>
      obtain ⟨rfl, hrest⟩ := List.cons.inj h
      refine ⟨step, rfl, rfl, fun error herror => ?_⟩
      obtain rfl : result = .error error := htake.trans herror
      exact ⟨hrest.symm, rfl⟩
    | cons earlier before =>
      obtain ⟨-, hrest⟩ := List.cons.inj h
      cases result with
      | error error => cases before <;> cases hrest
      | ok first =>
        obtain ⟨step, hstep, hmove, hstops⟩ := ih hrest
        refine ⟨step, hstep, hmove, fun error herror => ?_⟩
        obtain ⟨hafter, hrun⟩ := hstops error herror
        exact ⟨hafter, congrArg (Except.map (List.cons first)) hrun⟩

/-- What holds after some steps also holds after the last one that is done. -/
theorem each_keeps {I : Nat → χ → Prop}
    (hok : ∀ k step channel first, steps[k]? = some step → I k channel →
      (step.take channel).1 = .ok first → I (k + 1) (step.take channel).2)
    (herror : ∀ k step channel error, steps[k]? = some step → I k channel →
      (step.take channel).1 = .error error → I k (step.take channel).2)
    (h : I 0 channel) :
    match (each steps).run channel with
    | (.ok _, last) => I steps.length last
    | (.error _, last) => ∃ before turn, (each steps).turns channel = before ++ [turn] ∧
        I before.length last := by
  induction steps generalizing channel I with
  | nil => exact h
  | cons step steps ih =>
    have hfirst := hok 0 step channel
    have hfailed := herror 0 step channel
    rw [run_each_cons, turns_each_cons]
    generalize step.take channel = taken at hfirst hfailed ⊢
    obtain ⟨result, next⟩ := taken
    cases result with
    | error error => exact ⟨[], ⟨step.move, channel⟩, rfl, hfailed error rfl h rfl⟩
    | ok first =>
      -- The steps behind the first one are counted from there.
      have hrest := ih (I := fun k => I (k + 1)) (fun k => hok (k + 1)) (fun k => herror (k + 1))
        (hfirst first rfl h rfl)
      dsimp only
      generalize (each steps).run next = run at hrest ⊢
      obtain ⟨result, last⟩ := run
      cases result with
      | ok others => exact hrest
      | error error =>
        obtain ⟨before, turn, hturns, hlast⟩ := hrest
        exact ⟨⟨step.move, channel⟩ :: before, turn, congrArg (_ :: ·) hturns, hlast⟩

/-- Steps all of which go well. -/
theorem run_each {I : Nat → χ → Prop} {f : Nat → γ}
    (hstep : ∀ k step channel, steps[k]? = some step → I k channel →
      ∃ next, step.take channel = (.ok (f k), next) ∧ I (k + 1) next)
    (h : I 0 channel) :
    ∃ last, (each steps).run channel = (.ok ((List.range steps.length).map f), last) ∧
      I steps.length last := by
  induction steps generalizing channel I f with
  | nil => exact ⟨channel, rfl, h⟩
  | cons step steps ih =>
    obtain ⟨next, htake, hnext⟩ := hstep 0 step channel rfl h
    obtain ⟨last, hrun, hlast⟩ := ih (I := fun k => I (k + 1)) (f := fun k => f (k + 1))
      (fun k => hstep (k + 1)) hnext
    refine ⟨last, ?_, hlast⟩
    rw [run_each_cons, htake, List.length_cons, List.range_succ_eq_map]
    simp only [hrun, List.map_cons, List.map_map]
    rfl

end Dialogue

open Dialogue (maxWords)

/-- Where the chunk with number `k` of an area begins. -/
def chunkAddress (address : UInt32) (k : Nat) : UInt32 := address + .ofNat (4 * maxWords * k)

/-- How many of its words the chunk with number `k` has. -/
def chunkLength (count k : Nat) : Nat := min (count - maxWords * k) maxWords

def chunkCount (count : Nat) : Nat := (count + (maxWords - 1)) / maxWords

/-- The words of the chunk with number `k`. -/
def chunk (words : List UInt32) (k : Nat) : List UInt32 := (words.drop (maxWords * k)).take maxWords

/-- The chunks of an area, with the number of words in each. -/
def spans (address : UInt32) (count : Nat) : List (UInt32 × Nat) :=
  (List.range (chunkCount count)).map fun k => (chunkAddress address k, chunkLength count k)

/-- The chunks of words that belong into an area. -/
def placed (address : UInt32) (words : List UInt32) : List (UInt32 × List UInt32) :=
  (List.range (chunkCount words.length)).map fun k => (chunkAddress address k, chunk words k)

/-- Where the words of an area are. -/
def places (address : UInt32) (count : Nat) : List Nat := List.range' address.toNat count 4

/-- Areas make up a larger one, each of them behind the one before it. A command can move the words
of each. -/
structure Tiles (address : UInt32) (count : Nat) (areas : List (UInt32 × Nat)) : Prop where
  size : ∀ area ∈ areas, 1 ≤ area.2 ∧ area.2 ≤ maxWords
  places_eq : areas.flatMap (fun (address, count) => places address count) = places address count

section Chunk

variable {address : UInt32} {count k : Nat} {words : List UInt32}

theorem chunkAddress_zero (address : UInt32) : chunkAddress address 0 = address := by
  simp [chunkAddress]

theorem chunkAddress_succ (address : UInt32) (k : Nat) :
    chunkAddress address (k + 1) = chunkAddress (address + .ofNat (4 * maxWords)) k := by
  rw [chunkAddress, chunkAddress, UInt32.add_assoc, ← UInt32.ofNat_add, Nat.mul_succ,
    Nat.add_comm (4 * maxWords)]

theorem chunkLength_zero (count : Nat) : chunkLength count 0 = min count maxWords := rfl

theorem chunkLength_succ (count k : Nat) :
    chunkLength count (k + 1) = chunkLength (count - maxWords) k := by
  unfold chunkLength
  congr 1
  rw [Nat.mul_succ]
  omega

theorem chunkLength_le (count k : Nat) : chunkLength count k ≤ maxWords :=
  Nat.min_le_right _ _

theorem chunkCount_of_pos (h : 0 < count) :
    chunkCount count = chunkCount (count - maxWords) + 1 := by
  unfold chunkCount maxWords
  omega

theorem lt_of_lt_chunkCount (h : k < chunkCount count) : maxWords * k < count := by
  unfold chunkCount at h
  unfold maxWords at *
  omega

theorem chunkLength_pos (h : k < chunkCount count) : 0 < chunkLength count k := by
  have hlt := lt_of_lt_chunkCount h
  have hpos : 0 < maxWords := by decide
  unfold chunkLength
  omega

theorem le_mul_chunkCount (count : Nat) : count ≤ maxWords * chunkCount count := by
  unfold chunkCount maxWords
  omega

theorem length_chunk (words : List UInt32) (k : Nat) :
    (chunk words k).length = chunkLength words.length k := by
  rw [chunk, List.length_take, List.length_drop, Nat.min_comm]
  rfl

theorem chunk_succ (words : List UInt32) (k : Nat) :
    chunk words (k + 1) = chunk (words.drop maxWords) k := by
  rw [chunk, chunk, List.drop_drop, Nat.mul_succ, Nat.add_comm]

theorem take_chunk (words : List UInt32) (k : Nat) :
    words.take (maxWords * (k + 1)) = words.take (maxWords * k) ++ chunk words k := by
  rw [Nat.mul_succ, List.take_add]
  rfl

theorem spans_of_pos (address : UInt32) (h : 0 < count) :
    spans address count = (address, min count maxWords) ::
      spans (address + .ofNat (4 * maxWords)) (count - maxWords) := by
  rw [spans, chunkCount_of_pos h, List.range_succ_eq_map, List.map_cons, List.map_map,
    chunkAddress_zero, chunkLength_zero]
  refine congrArg (_ :: ·) (List.map_congr_left fun k _ => ?_)
  rw [Function.comp_apply, chunkAddress_succ, chunkLength_succ]

theorem placed_of_ne (address : UInt32) (h : words ≠ []) :
    placed address words = (address, words.take maxWords) ::
      placed (address + .ofNat (4 * maxWords)) (words.drop maxWords) := by
  rw [placed, chunkCount_of_pos (List.length_pos_iff.2 h), List.range_succ_eq_map, List.map_cons,
    List.map_map, chunkAddress_zero, placed, List.length_drop]
  refine congrArg (_ :: ·) (List.map_congr_left fun k _ => ?_)
  rw [Function.comp_apply, chunkAddress_succ, chunk_succ]

theorem getElem?_spans {span : UInt32 × Nat} (h : (spans address count)[k]? = some span) :
    k < chunkCount count ∧ span = (chunkAddress address k, chunkLength count k) := by
  obtain ⟨hk, heq⟩ := List.getElem?_eq_some_iff.1 h
  simp only [spans, List.length_map, List.length_range] at hk
  simp only [spans, List.getElem_map, List.getElem_range] at heq
  exact ⟨hk, heq.symm⟩

theorem getElem?_placed {part : UInt32 × List UInt32}
    (h : (placed address words)[k]? = some part) :
    k < chunkCount words.length ∧ part = (chunkAddress address k, chunk words k) := by
  obtain ⟨hk, heq⟩ := List.getElem?_eq_some_iff.1 h
  simp only [placed, List.length_map, List.length_range] at hk
  simp only [placed, List.getElem_map, List.getElem_range] at heq
  exact ⟨hk, heq.symm⟩

theorem map_length_placed (address : UInt32) (words : List UInt32) :
    (placed address words).map (fun (address, words) => (address, words.length)) =
      spans address words.length := by
  rw [placed, List.map_map]
  exact List.map_congr_left fun k _ => congrArg (Prod.mk _) (length_chunk words k)

/-- The chunks of words are those words. -/
theorem flatMap_placed (address : UInt32) (words : List UInt32) :
    (placed address words).flatMap (·.2) = words := by
  have hfirst (n : Nat) : (List.range n).flatMap (chunk words) = words.take (maxWords * n) := by
    induction n with
    | zero => rfl
    | succ n ih => rw [List.range_succ, List.flatMap_append, ih, List.flatMap_singleton, take_chunk]
  rw [placed, List.flatMap_map, hfirst, List.take_of_length_le (le_mul_chunkCount _)]

theorem toNat_chunkAddress (hk : k < chunkCount count)
    (h : address.toNat + 4 * count ≤ UInt32.size) :
    (chunkAddress address k).toNat = address.toNat + 4 * (maxWords * k) := by
  have hlt := lt_of_lt_chunkCount hk
  unfold UInt32.size at h
  rw [chunkAddress, UInt32.toNat_add, UInt32.toNat_ofNat', Nat.mul_assoc]
  omega

/-- The first chunks of an area make up its beginning. -/
theorem flatMap_range_places (h : address.toNat + 4 * count ≤ UInt32.size) {n : Nat}
    (hn : n ≤ chunkCount count) :
    (List.range n).flatMap (fun k => places (chunkAddress address k) (chunkLength count k)) =
      places address (min count (maxWords * n)) := by
  induction n with
  | zero => simp [places]
  | succ n ih =>
    -- Only the last chunk can be shorter, so this one begins where the others before it end.
    have hlt := lt_of_lt_chunkCount hn
    have hlength : min count (maxWords * (n + 1)) = maxWords * n + chunkLength count n := by
      unfold chunkLength
      rw [Nat.mul_succ]
      omega
    rw [List.range_succ, List.flatMap_append, List.flatMap_singleton, ih (Nat.le_of_lt hn),
      Nat.min_eq_right (Nat.le_of_lt hlt), hlength]
    unfold places
    rw [toNat_chunkAddress hn h, List.range'_append]

theorem tiles_spans (h : address.toNat + 4 * count ≤ UInt32.size) :
    Tiles address count (spans address count) := by
  refine ⟨fun span hspan => ?_, ?_⟩
  · obtain ⟨k, hk⟩ := List.mem_iff_getElem?.1 hspan
    obtain ⟨hlt, rfl⟩ := getElem?_spans hk
    exact ⟨chunkLength_pos hlt, chunkLength_le count k⟩
  · rw [spans, List.flatMap_map, flatMap_range_places h (Nat.le_refl _),
      Nat.min_eq_left (le_mul_chunkCount count)]

end Chunk

theorem readWords_eq_map_places (memory : Memory) (address : UInt32) (count : Nat) :
    memory.readWords address count =
      (places address count).map fun place => memory.read (.ofNat place) := by
  refine List.ext_getElem (by simp [Memory.readWords, places]) fun i _ _ => ?_
  simp [Memory.readWords, places, UInt32.ofNat_add]

/-- What was stored is read again. -/
theorem readWords_of_stores {before after : Memory} {address : UInt32} {words : List UInt32}
    (h : before.Stores address words after) : after.readWords address words.length = words := by
  refine List.ext_getElem (SimulatedDevice.length_readWords _ _ _) fun i _ hi => ?_
  simp [← h.inside i hi, Memory.readWords, UInt32.ofNat_add]

/-- The words that a reply must hold. -/
def wordsOf (address : UInt32) (count : Nat) (reply : Bytes) : Except LinkError (List UInt32) :=
  match BoardDebug.readWords reply with
  | .ok words =>
    if words.length = count then .ok words
    else .error (.malformed (.wordCount (.ofNat count) address words.length))
  | .error what => .error (.malformed what)

/-- What is wrong with a reply that does not hold that many words. -/
def misread (address : UInt32) (count : Nat) (reply : Bytes) : Malformed :=
  if reply.length % 4 = 0 then .wordCount (.ofNat count) address (reply.length / 4)
  else .ragged reply.length

theorem wordsOf_wordBytes (address : UInt32) (words : List UInt32) :
    wordsOf address words.length (wordBytes words) = .ok words := by
  simp [wordsOf]

theorem wordsOf_of_ne (address : UInt32) {count : Nat} {reply : Bytes}
    (h : reply.length ≠ 4 * count) :
    wordsOf address count reply = .error (.malformed (misread address count reply)) := by
  unfold wordsOf misread BoardDebug.readWords
  -- A reply without a whole number of words has no words, so its length alone tells what is wrong.
  cases hwords : words? reply with
  | none => simp [length_mod_of_words? hwords]
  | some words =>
    have hlength := length_of_words? hwords
    have hcount : words.length ≠ count := fun heq => h (by rw [hlength, heq])
    simp [hcount, hlength]

def readStep (span : UInt32 × Nat) : Step (List UInt32) :=
  ⟨Command.readWords, wordBytes [span.1, .ofNat span.2], wordsOf span.1 span.2⟩

def writeStep (part : UInt32 × List UInt32) : Step Unit :=
  ⟨Command.writeWords, wordBytes [part.1, .ofNat part.2.length] ++ wordBytes part.2,
    fun _ => .ok ()⟩

namespace Dialogue

theorem readChunk_eq (address : UInt32) (count : Nat) :
    readChunk address count = one (readStep (address, count)) := by
  refine congrArg (ask Command.readWords _) (funext fun reply => ?_)
  change (ofRead (BoardDebug.readWords reply)).bind _ = done (wordsOf address count reply)
  unfold wordsOf
  cases BoardDebug.readWords reply with
  | error what => rfl
  | ok words =>
    dsimp only [ofRead, bind]
    split <;> rfl

/-- Reading by what remains is reading in chunks. -/
theorem readFrom_eq {commands : Nat} (address : UInt32) {count : Nat}
    (h : count ≤ maxWords * commands) :
    readFrom commands address count =
      List.flatten <$> each ((spans address count).map readStep) := by
  induction commands generalizing address count with
  | zero =>
    obtain rfl : count = 0 := by omega
    rfl
  | succ commands ih =>
    unfold readFrom
    split
    case isTrue hzero =>
      subst hzero
      rfl
    case isFalse hpos =>
      have hrest : count - maxWords ≤ maxWords * commands := by
        rw [Nat.mul_succ] at h
        omega
      -- Both read the first chunk, and then what is left of the area.
      rw [spans_of_pos address (Nat.pos_of_ne_zero hpos), List.map_cons, each_cons, readChunk_eq,
        ih _ hrest]
      simp only [map_bind, bind_pure_comp, Functor.map_map, List.flatten_cons]

theorem readWords_eq (address : UInt32) (count : Nat) :
    readWords address count = List.flatten <$> each ((spans address count).map readStep) := by
  refine readFrom_eq address ?_
  unfold maxWords
  omega

/-- Writing the pieces of words is writing them in chunks. -/
theorem writeChunks_eq (address : UInt32) {count : Nat} {words : List UInt32}
    (h : words.length ≤ count) :
    writeChunks address (pieces maxWords count words) =
      (fun _ => ()) <$> each ((placed address words).map writeStep) := by
  induction count generalizing address words with
  | zero =>
    obtain rfl := List.length_eq_zero_iff.1 (Nat.le_zero.1 h)
    rfl
  | succ count ih =>
    cases words with
    | nil => rfl
    | cons first rest =>
      have hrest : ((first :: rest).drop maxWords).length ≤ count := by
        rw [List.length_drop]
        unfold maxWords
        omega
      rw [placed_of_ne address (List.cons_ne_nil first rest), List.map_cons, each_cons, pieces]
      · unfold writeChunks
        rw [ih _ hrest]
        simp only [map_bind, Functor.map_map]
        rfl
      · simp

theorem writeWords_eq (address : UInt32) (words : List UInt32) :
    writeWords address words = (fun _ => ()) <$> each ((placed address words).map writeStep) :=
  writeChunks_eq address (Nat.le_refl _)

end Dialogue

/-- A device with a word memory. A command to write that it refuses stores nothing. -/
structure WordStore (β : Type) [UsbBus β] where
  /-- Whether a link leads to the device. -/
  leads : Hf2Link β → Prop
  /-- What the device holds at the other end of a link. -/
  memory : Hf2Link β → Memory
  listens : ∀ {link}, leads link → leads link.listened.2 ∧ memory link.listened.2 = memory link
  stays : ∀ {link address words}, leads link → words.length ≤ maxWords →
    leads ((Move.writeWords address words).make link).2
  stores : ∀ {link address words reply}, leads link → words.length ≤ maxWords →
    ((Move.writeWords address words).make link).1 = .ok reply →
    memory ((Move.writeWords address words).make link).2 = (memory link).writeWords address words
  refuses : ∀ {link address words error}, leads link → words.length ≤ maxWords →
    ((Move.writeWords address words).make link).1 = .error error →
    memory ((Move.writeWords address words).make link).2 = memory link

/-- A device that serves the commands for words from its memory, and refuses none. -/
structure WordServer (β : Type) [UsbBus β] extends WordStore β where
  grants : ∀ {link address words}, leads link → words.length ≤ maxWords →
    ∃ reply, ((Move.writeWords address words).make link).1 = .ok reply
  reads : ∀ {link address count}, leads link → count ≤ maxWords →
    ∃ next, (Move.readWords address count).make link =
        (.ok (wordBytes ((memory link).readWords address count)), next) ∧
      leads next ∧ memory next = memory link

section Serve

variable {β : Type} [UsbBus β] {link : Hf2Link β} {address : UInt32} {words : List UInt32}

/-- A request that is served by steps is over when these are. -/
theorem serve_of_each {γ : Type} (request : Request) {steps : List (Step γ)}
    {f : List γ → request.Reply} (h : Dialogue.ofRequest request = f <$> Dialogue.each steps)
    (link : Hf2Link β) :
    (link.serve request).answer = ((Dialogue.each steps).run link).1.map f ∧
      (link.serve request).link = ((Dialogue.each steps).run link).2.listened.2 := by
  have hserve : link.serve request =
      ⟨((Dialogue.ofRequest request).run link).1,
        ((Dialogue.ofRequest request).run link).2.listened.2,
        ((Dialogue.ofRequest request).run link).2.listened.1⟩ := rfl
  rw [hserve, h, Dialogue.run_map]
  exact ⟨rfl, rfl⟩

/-- A request fails as the first of its steps does that fails. -/
theorem serve_stops {γ : Type} (request : Request) {steps : List (Step γ)}
    {f : List γ → request.Reply} (h : Dialogue.ofRequest request = f <$> Dialogue.each steps)
    {before after : List (Turn (Hf2Link β))} {turn : Turn (Hf2Link β)}
    (hturns : (Dialogue.ofRequest request).turns link = before ++ turn :: after) :
    ∃ step, steps[before.length]? = some step ∧ turn.move = step.move ∧
      ∀ error, turn.result.bind step.read = .error error →
        after = [] ∧ (link.serve request).answer = .error error := by
  rw [h, Dialogue.turns_map] at hturns
  obtain ⟨step, hstep, hmove, hstops⟩ := Dialogue.each_stops hturns
  refine ⟨step, hstep, hmove, fun error herror => ?_⟩
  obtain ⟨hafter, hrun⟩ := hstops error herror
  exact ⟨hafter, by rw [(serve_of_each request h link).1, hrun]; rfl⟩

theorem writeWords_take_chunk (memory : Memory) (address : UInt32) {k : Nat}
    (h : maxWords * k ≤ words.length) :
    (memory.writeWords address (words.take (maxWords * k))).writeWords (chunkAddress address k)
      (chunk words k) = memory.writeWords address (words.take (maxWords * (k + 1))) := by
  rw [take_chunk, Memory.writeWords_append, List.length_take_of_le h, chunkAddress, Nat.mul_assoc]

/-- The device has taken the first `k` chunks of the words. -/
def WordStore.Holds (store : WordStore β) (before : Memory) (address : UInt32)
    (words : List UInt32) (k : Nat) (link : Hf2Link β) : Prop :=
  store.leads link ∧ store.memory link = before.writeWords address (words.take (maxWords * k))

theorem WordStore.holds_zero {store : WordStore β} (h : store.leads link) (address : UInt32)
    (words : List UInt32) : store.Holds (store.memory link) address words 0 link :=
  ⟨h, rfl⟩

theorem exists_part_of_step {k : Nat} {step : Step Unit}
    (h : ((placed address words).map writeStep)[k]? = some step) :
    k < chunkCount words.length ∧ step = writeStep (chunkAddress address k, chunk words k) := by
  rw [List.getElem?_map] at h
  obtain ⟨part, hpart, rfl⟩ := Option.map_eq_some_iff.1 h
  obtain ⟨hk, rfl⟩ := getElem?_placed hpart
  exact ⟨hk, rfl⟩

theorem length_chunk_le (words : List UInt32) (k : Nat) : (chunk words k).length ≤ maxWords :=
  List.length_take_le _ _

theorem exists_reply_of_take {part : UInt32 × List UInt32} {done : Unit}
    (h : ((writeStep part).take link).1 = .ok done) :
    ∃ reply, ((Move.writeWords part.1 part.2).make link).1 = .ok reply := by
  change ((Move.writeWords part.1 part.2).make link).1.bind (fun _ => .ok ()) = .ok done at h
  cases hresult : ((Move.writeWords part.1 part.2).make link).1 with
  | ok reply => exact ⟨reply, rfl⟩
  | error error =>
    rw [hresult] at h
    cases h

theorem refused_of_take {part : UInt32 × List UInt32} {error : LinkError}
    (h : ((writeStep part).take link).1 = .error error) :
    ((Move.writeWords part.1 part.2).make link).1 = .error error := by
  change ((Move.writeWords part.1 part.2).make link).1.bind (fun _ => .ok ()) = .error error at h
  cases hresult : ((Move.writeWords part.1 part.2).make link).1 with
  | ok reply =>
    rw [hresult] at h
    cases h
  | error refusal =>
    rw [hresult] at h
    obtain rfl : refusal = error := Except.error.inj h
    rfl

theorem WordStore.Holds.stored {store : WordStore β} {before : Memory} {k : Nat} {step : Step Unit}
    {done : Unit} (h : store.Holds before address words k link)
    (hstep : ((placed address words).map writeStep)[k]? = some step)
    (hdone : (step.take link).1 = .ok done) :
    store.Holds before address words (k + 1) (step.take link).2 := by
  obtain ⟨hk, rfl⟩ := exists_part_of_step hstep
  obtain ⟨reply, hreply⟩ := exists_reply_of_take hdone
  have hshort := length_chunk_le words k
  refine ⟨store.stays h.1 hshort, ?_⟩
  rw [← writeWords_take_chunk _ _ (Nat.le_of_lt (lt_of_lt_chunkCount hk)), ← h.2]
  exact store.stores h.1 hshort hreply

theorem WordStore.Holds.refused {store : WordStore β} {before : Memory} {k : Nat} {step : Step Unit}
    {error : LinkError} (h : store.Holds before address words k link)
    (hstep : ((placed address words).map writeStep)[k]? = some step)
    (herror : (step.take link).1 = .error error) :
    store.Holds before address words k (step.take link).2 := by
  obtain ⟨hk, rfl⟩ := exists_part_of_step hstep
  have hrefused := refused_of_take herror
  have hshort := length_chunk_le words k
  refine ⟨store.stays h.1 hshort, ?_⟩
  rw [← h.2]
  exact store.refuses h.1 hshort hrefused

theorem WordStore.Holds.listened {store : WordStore β} {before : Memory} {k : Nat}
    (h : store.Holds before address words k link) :
    store.Holds before address words k link.listened.2 := by
  obtain ⟨hleads, hmemory⟩ := store.listens h.1
  exact ⟨hleads, hmemory.trans h.2⟩

/-- A refused chunk is the last one. -/
theorem serve_writeWords_of_error {before after : List (Turn (Hf2Link β))}
    {turn : Turn (Hf2Link β)} {error : LinkError}
    (hturns : (Dialogue.writeWords address words).turns link = before ++ turn :: after)
    (herror : turn.result = .error error) :
    after = [] ∧ (link.serve (.writeWords address words)).answer = .error error := by
  obtain ⟨step, -, -, hstops⟩ :=
    serve_stops (.writeWords address words) (Dialogue.writeWords_eq address words) hturns
  exact hstops error (by rw [herror]; rfl)

/-- If chunk number `k` is refused, then the chunks before it are stored, and nothing else. -/
theorem WordStore.memory_serve_writeWords (store : WordStore β) (h : store.leads link)
    {before : List (Turn (Hf2Link β))} {turn : Turn (Hf2Link β)} {error : LinkError}
    (hturns : (Dialogue.writeWords address words).turns link = before ++ [turn])
    (herror : (link.serve (.writeWords address words)).answer = .error error) :
    store.memory (link.serve (.writeWords address words)).link =
      (store.memory link).writeWords address (words.take (maxWords * before.length)) := by
  obtain ⟨hanswer, hlink⟩ :=
    serve_of_each (.writeWords address words) (Dialogue.writeWords_eq address words) link
  have hkeeps := Dialogue.each_keeps (I := store.Holds (store.memory link) address words)
    (fun _ _ _ _ hstep hholds => hholds.stored hstep)
    (fun _ _ _ _ hstep hholds => hholds.refused hstep) (store.holds_zero h address words)
  rw [Dialogue.writeWords_eq, Dialogue.turns_map] at hturns
  rw [hanswer] at herror
  rw [hlink]
  generalize (Dialogue.each ((placed address words).map writeStep)).run link = run
    at hkeeps herror ⊢
  obtain ⟨result, last⟩ := run
  cases result with
  | ok _ => cases herror
  | error _ =>
    obtain ⟨others, failed, hothers, hholds⟩ := hkeeps
    obtain rfl : before = others := (List.append_inj' (hturns.symm.trans hothers) rfl).1
    exact hholds.listened.2

theorem WordServer.serve_writeWords (server : WordServer β) (h : server.leads link)
    (address : UInt32) (words : List UInt32) :
    (link.serve (.writeWords address words)).answer = .ok () ∧
      server.leads (link.serve (.writeWords address words)).link ∧
      server.memory (link.serve (.writeWords address words)).link =
        (server.memory link).writeWords address words := by
  have hstep (k : Nat) (step : Step Unit) (link' : Hf2Link β)
      (hstep : ((placed address words).map writeStep)[k]? = some step)
      (hholds : server.Holds (server.memory link) address words k link') :
      ∃ next, step.take link' = (.ok (), next) ∧
        server.Holds (server.memory link) address words (k + 1) next := by
    obtain ⟨-, rfl⟩ := exists_part_of_step hstep
    obtain ⟨reply, hreply⟩ := server.grants hholds.1 (length_chunk_le words k)
    have hdone : ((writeStep (chunkAddress address k, chunk words k)).take link').1 = .ok () :=
      congrArg (·.bind fun _ => .ok ()) hreply
    exact ⟨_, Prod.ext hdone rfl, hholds.stored hstep hdone⟩
  obtain ⟨last, hrun, hlast⟩ := Dialogue.run_each hstep (server.holds_zero h address words)
  obtain ⟨hanswer, hlink⟩ :=
    serve_of_each (.writeWords address words) (Dialogue.writeWords_eq address words) link
  obtain ⟨hleads, hmemory⟩ := hlast.listened
  rw [hanswer, hlink, hrun]
  refine ⟨rfl, hleads, hmemory.trans ?_⟩
  rw [List.take_of_length_le]
  simpa [placed] using le_mul_chunkCount words.length

theorem WordServer.take_readStep (server : WordServer β) (h : server.leads link)
    (address : UInt32) {count : Nat} (hcount : count ≤ maxWords) :
    ∃ next, (readStep (address, count)).take link =
        (.ok ((server.memory link).readWords address count), next) ∧
      server.leads next ∧ server.memory next = server.memory link := by
  obtain ⟨next, hmake, hleads, hmemory⟩ := server.reads h hcount
  refine ⟨next, ?_, hleads, hmemory⟩
  have hask : Channel.ask link Command.readWords (wordBytes [address, .ofNat count]) =
      (.ok (wordBytes ((server.memory link).readWords address count)), next) := hmake
  have hwords := wordsOf_wordBytes address ((server.memory link).readWords address count)
  rw [SimulatedDevice.length_readWords] at hwords
  simp only [Step.take, readStep, hask, Except.bind, hwords]

theorem WordServer.serve_readWords (server : WordServer β) (h : server.leads link)
    (address count : UInt32) (harea : address.toNat + 4 * count.toNat ≤ UInt32.size) :
    (link.serve (.readWords address count)).answer =
        .ok ((server.memory link).readWords address count.toNat) ∧
      server.leads (link.serve (.readWords address count)).link ∧
      server.memory (link.serve (.readWords address count)).link = server.memory link := by
  have hstep (k : Nat) (step : Step (List UInt32)) (link' : Hf2Link β)
      (hstep : ((spans address count.toNat).map readStep)[k]? = some step)
      (hleads : server.leads link' ∧ server.memory link' = server.memory link) :
      ∃ next, step.take link' = (.ok ((server.memory link).readWords (chunkAddress address k)
          (chunkLength count.toNat k)), next) ∧
        server.leads next ∧ server.memory next = server.memory link := by
    rw [List.getElem?_map] at hstep
    obtain ⟨span, hspan, rfl⟩ := Option.map_eq_some_iff.1 hstep
    obtain ⟨-, rfl⟩ := getElem?_spans hspan
    obtain ⟨next, htake, hnext⟩ :=
      server.take_readStep hleads.1 (chunkAddress address k) (chunkLength_le count.toNat k)
    rw [hleads.2] at htake hnext
    exact ⟨next, htake, hnext⟩
  obtain ⟨last, hrun, hleads, hmemory⟩ := Dialogue.run_each hstep ⟨h, rfl⟩
  obtain ⟨hanswer, hlink⟩ :=
    serve_of_each (.readWords address count) (Dialogue.readWords_eq address count.toNat) link
  obtain ⟨hheard, hkept⟩ := server.listens hleads
  rw [hanswer, hlink, hrun]
  refine ⟨congrArg Except.ok ?_, hheard, hkept.trans hmemory⟩
  -- The words are read at all places of the chunks, and those are the places of the area.
  simp only [List.length_map, spans, List.length_range, readWords_eq_map_places]
  rw [← (tiles_spans harea).places_eq, spans, List.flatMap_map, List.map_flatMap]
  rfl

/-- What was written is read again. -/
theorem WordServer.readWords_written (server : WordServer β) (h : server.leads link)
    (harea : address.toNat + 4 * words.length ≤ UInt32.size) :
    ((link.serve (.writeWords address words)).link.serve
      (.readWords address (.ofNat words.length))).answer = .ok words := by
  obtain ⟨-, hstays, hstored⟩ := server.serve_writeWords h address words
  have hstores := (server.memory link).stores_writeWords harea
  have hlength : (UInt32.ofNat words.length).toNat = words.length := by
    unfold UInt32.size at harea
    rw [UInt32.toNat_ofNat']
    omega
  rw [← hlength] at harea
  obtain ⟨hback, -⟩ := server.serve_readWords hstays address (.ofNat words.length) harea
  rw [hstored, hlength, readWords_of_stores hstores] at hback
  exact hback

/-- A device that serves words from its memory does so as a simulated one. -/
theorem WordServer.serve_simulated (server : WordServer β) (h : server.leads link)
    {d : SimulatedDevice} (hmemory : d.memory = server.memory link) (hfailures : d.failures = [])
    {count : UInt32} (harea : address.toNat + 4 * count.toNat ≤ UInt32.size)
    (words : List UInt32) :
    (link.serve (.readWords address count)).answer =
        (Link.serve d (.readWords address count)).answer ∧
      (link.serve (.writeWords address words)).answer =
        (Link.serve d (.writeWords address words)).answer ∧
      server.memory (link.serve (.writeWords address words)).link =
        (Link.serve d (.writeWords address words)).link.memory := by
  obtain ⟨hwords, -⟩ := server.serve_readWords h address count harea
  obtain ⟨hdone, -, hstored⟩ := server.serve_writeWords h address words
  have hserve (request : Request) (hrequest : request ≠ .queryHalt) :
      Link.serve d request = (d.note request).answer request :=
    Routine.serve_answer request hrequest (by simp [hfailures])
  rw [← hmemory] at hwords hstored
  rw [hserve _ (by nofun), hserve _ (by nofun)]
  exact ⟨hwords, hdone, hstored⟩

/-- A reply that does not hold the words that were asked for is the last one. -/
theorem serve_readWords_of_ne {count : UInt32} {before after : List (Turn (Hf2Link β))}
    {turn : Turn (Hf2Link β)} {reply : Bytes}
    (hturns : (Dialogue.readWords address count.toNat).turns link = before ++ turn :: after)
    (hreply : turn.result = .ok reply) :
    ∃ span, (spans address count.toNat)[before.length]? = some span ∧
      turn.move = .readWords span.1 span.2 ∧ (reply.length ≠ 4 * span.2 →
        after = [] ∧ (link.serve (.readWords address count)).answer =
          .error (.malformed (misread span.1 span.2 reply))) := by
  obtain ⟨step, hstep, hmove, hstops⟩ :=
    serve_stops (.readWords address count) (Dialogue.readWords_eq address count.toNat) hturns
  rw [List.getElem?_map] at hstep
  obtain ⟨span, hspan, rfl⟩ := Option.map_eq_some_iff.1 hstep
  refine ⟨span, hspan, hmove, fun hlength => hstops _ ?_⟩
  rw [hreply]
  exact wordsOf_of_ne span.1 hlength

end Serve

end Hf2

namespace Hf2Link

open Hf2 Dialogue Watched

variable {β : Type} [UsbBus β]

/-- For a request these moves are made, up to the first after which it fails, and nothing is written
but their reports. -/
structure Makes (link : Hf2Link (Watched β)) (request : Request) (moves : List Move) : Prop where
  said : Turn.said ((Dialogue.ofRequest request).turns link) <+: moves
  all : ∀ reply, (link.serve request).answer = .ok reply →
    Turn.said ((Dialogue.ofRequest request).turns link) = moves
  wrote : Wrote link.bus (link.serve request).link.bus
    (Move.allReports link.nextTag (Turn.said ((Dialogue.ofRequest request).turns link)))
    (link.serve request).answer

theorem makes_of_each {γ : Type} (request : Request) {steps : List (Step γ)}
    {f : List γ → request.Reply} (h : Dialogue.ofRequest request = f <$> each steps)
    (link : Hf2Link (Watched β)) : link.Makes request (steps.map Step.move) := by
  refine ⟨?_, fun reply hreply => ?_, wrote_serve link request⟩
  · rw [h, turns_map]
    exact said_each steps link
  · rw [h, turns_map]
    rw [(serve_of_each request h link).1] at hreply
    cases hrun : ((each steps).run link).1 with
    | error error =>
      rw [hrun] at hreply
      cases hreply
    | ok results => exact said_each_of_ok hrun

/-- What is said over one bus reaches another as long as the first one `works`; after that nothing
can be written. -/
structure Relays {β γ : Type} [UsbBus β] [UsbBus γ] (f : γ → β) (works : γ → Prop) : Prop where
  write : ∀ bus report, works bus →
    UsbBus.write (f bus) report =
        ((UsbBus.write bus report).1, f (UsbBus.write bus report).2) ∧
      works (UsbBus.write bus report).2
  refuse : ∀ bus report, ¬works bus →
    ∃ fault next, UsbBus.write bus report = (.error fault, next) ∧ f next = f bus
  receive : ∀ bus,
    UsbBus.receive (f bus) = ((UsbBus.receive bus).1, f (UsbBus.receive bus).2)

/-- A link with another bus behind its own. -/
def through {β γ : Type} (f : γ → β) (link : Hf2Link γ) : Hf2Link β :=
  { options := link.options, bus := f link.bus, isOpen := link.isOpen, nextTag := link.nextTag,
    exchange := link.exchange, events := link.events }

namespace Relays

variable {β γ : Type} {f : γ → β} {works : γ → Prop}

theorem through_take (f : γ → β) (link : Hf2Link γ) (arrivals : List Arrival) :
    through f (link.take arrivals) = (through f link).take arrivals := by
  induction arrivals generalizing link with
  | nil => rfl
  | cons arrival arrivals ih =>
    cases arrival with
    | broken => rfl
    | report bytes => exact ih _

theorem through_conclude (f : γ → β) (link : Hf2Link γ) (command : UInt32) :
    (through f link).conclude command =
      ((link.conclude command).1, through f (link.conclude command).2) := by
  unfold Hf2Link.conclude
  cases hslot : link.exchange.slot <;> simp only [through, hslot]

variable [UsbBus β] [UsbBus γ]

theorem writeReports (h : Relays f works) {bus : γ} (hworks : works bus) (reports : List Bytes) :
    Hf2Link.writeReports (f bus) reports =
      ((Hf2Link.writeReports bus reports).1, f (Hf2Link.writeReports bus reports).2) := by
  induction reports generalizing bus with
  | nil => rfl
  | cons report reports ih =>
    obtain ⟨hwrite, hnext⟩ := h.write bus report hworks
    simp only [Hf2Link.writeReports, hwrite]
    generalize UsbBus.write bus report = written at hnext ⊢
    obtain ⟨result, next⟩ := written
    cases result with
    | error fault => rfl
    | ok _ => exact ih hnext

theorem listen (h : Relays f works) (link : Hf2Link γ) :
    (through f link).listen = through f link.listen := by
  obtain ⟨options, bus, isOpen, nextTag, exchange, events⟩ := link
  cases isOpen with
  | false => rfl
  | true =>
    have htake := through_take f ⟨options, (UsbBus.receive bus).2, true, nextTag, exchange, events⟩
      (UsbBus.receive bus).1
    simp only [Hf2Link.listen, through, if_true, h.receive] at htake ⊢
    exact htake.symm

theorem listened (h : Relays f works) (link : Hf2Link γ) :
    (through f link).listened.2 = through f link.listened.2 := by
  unfold Hf2Link.listened
  rw [h.listen]
  rfl

theorem send (h : Relays f works) (link : Hf2Link γ) (hworks : works link.bus) (message : Bytes) :
    (through f link).send message =
      ((link.send message).1, through f (link.send message).2) := by
  unfold Hf2Link.send
  cases hopen : link.isOpen with
  | false => simp only [through, hopen, Bool.false_eq_true, if_false]
  | true => simp only [through, hopen, if_true, h.writeReports hworks]

/-- What is asked is asked of the bus behind. -/
theorem ask (h : Relays f works) {link : Hf2Link γ} (hworks : works link.bus) (command : UInt32)
    (payload : Bytes) :
    (through f link).ask command payload =
      ((link.ask command payload).1, through f (link.ask command payload).2) := by
  have hsend : (through f link).asking command payload =
      ((link.asking command payload).1, through f (link.asking command payload).2) :=
    h.send (link.after (.request command)) hworks _
  rw [ask_eq, ask_eq, hsend]
  generalize link.asking command payload = asked
  obtain ⟨result, sent⟩ := asked
  cases result with
  | error error => rfl
  | ok _ =>
    dsimp only
    rw [h.listen]
    exact through_conclude f _ command

/-- What cannot be written reaches nobody. -/
theorem ask_of_not_works (h : Relays f works) {link : Hf2Link γ} (hworks : ¬works link.bus)
    (hopen : link.isOpen = true) (command : UInt32) (payload : Bytes) : ∃ error,
    (link.ask command payload).1 = .error error ∧
      through f (link.ask command payload).2 =
        ((through f link).after (.request command)).after .release := by
  have hne : outputReports (commandMessage command link.takeTag.1 payload) ≠ [] := by
    intro hnil
    have hmessage : commandMessage command link.takeTag.1 payload ≠ [] := by
      simp [commandMessage, Word.bytes]
    exact outputReports_ne_nil hmessage (by rw [hnil]; rfl)
  obtain ⟨first, rest, hreports⟩ := List.exists_cons_of_ne_nil hne
  obtain ⟨fault, next, hwrite, hnext⟩ := h.refuse link.bus first hworks
  have hsend : link.asking command payload =
      (.error (.usb fault), { link.after (.request command) with bus := next }) := by
    change (link.after (.request command)).send _ = _
    unfold Hf2Link.send
    rw [hreports]
    have hopen' : (link.after (.request command)).isOpen = true := hopen
    have hbus : (link.after (.request command)).bus = link.bus := rfl
    rw [if_pos hopen', hbus]
    simp only [Hf2Link.writeReports, hwrite]
    rfl
  refine ⟨.usb fault, ?_, ?_⟩
  · rw [ask_eq, hsend]
  · rw [ask_eq, hsend]
    simp only [through, Hf2Link.after, hnext]
    rfl

end Relays

namespace Relays

variable {β γ : Type} [UsbBus β] [UsbBus γ] {f : γ → β} {works : γ → Prop} {options : Options}
  {view : β → Board} {link : Hf2Link γ} {m : Machine} {untold : List UInt32}

/-- A board behind a bus that works does what it is told. -/
theorem make (h : Relays f works) (hboard : IsBoard options view)
    (htuned : (through f link).Tuned options view .free m untold) (hworks : works link.bus)
    {command : UInt32} {payload : Bytes} {effect : Effect}
    (hserve : m.serve command payload = some effect) :
    ∃ next, (Move.ask command payload).make link = (.ok effect.reply, next) ∧
      (through f next).Tuned options view .free effect.machine (untold ++ effect.halts) := by
  obtain ⟨next, hask, hnext⟩ := htuned.ask hboard hserve
  rw [h.ask hworks] at hask
  obtain ⟨hresult, rfl⟩ := Prod.mk.inj hask
  exact ⟨_, Prod.ext hresult rfl, hnext⟩

/-- A board behind a bus that does not work is told nothing. -/
theorem make_of_not_works (h : Relays f works)
    (htuned : (through f link).Tuned options view .free m untold) (hworks : ¬works link.bus)
    (command : UInt32) (payload : Bytes) : ∃ error next,
    (Move.ask command payload).make link = (.error error, next) ∧
      (through f next).Tuned options view .free m untold := by
  obtain ⟨error, hresult, hnext⟩ := h.ask_of_not_works hworks htuned.isOpen command payload
  refine ⟨error, _, Prod.ext hresult rfl, ?_⟩
  change (through f (link.ask command payload).2).Tuned options view .free m untold
  rw [hnext]
  exact { htuned with slot_eq := rfl }

/-- Words reach the memory of a board, or nothing does. -/
theorem make_writeWords (h : Relays f works) (hboard : IsBoard options view)
    (htuned : (through f link).Tuned options view .free m untold) (address : UInt32)
    {words : List UInt32} (hshort : words.length ≤ maxWords) : ∃ result next m',
    (Move.writeWords address words).make link = (result, next) ∧
      (through f next).Tuned options view .free m' untold ∧
      (∀ reply, result = .ok reply → m'.memory = m.memory.writeWords address words) ∧
      ∀ error, result = .error error → m' = m := by
  by_cases hworks : works link.bus
  · obtain ⟨next, hmake, hnext⟩ :=
      h.make hboard htuned hworks (serve_writeWords m address hshort)
    rw [List.append_nil] at hnext
    exact ⟨_, next, _, hmake, hnext, fun _ _ => rfl, nofun⟩
  · obtain ⟨error, next, hmake, hnext⟩ := h.make_of_not_works htuned hworks _ _
    exact ⟨_, next, m, hmake, hnext, nofun, fun _ _ => rfl⟩

/-- The memory of a board, behind a bus that may stop working. -/
def store (h : Relays f works) (hboard : IsBoard options view) : WordStore γ where
  leads link := ∃ m untold, (through f link).Tuned options view .free m untold
  memory link := (view (f link.bus)).machine.memory
  listens := by
    rintro link ⟨m, untold, htuned⟩
    obtain ⟨untold', -, hlistened⟩ := htuned.hand hboard
    have hsame := hlistened.machine_eq.trans htuned.machine_eq.symm
    rw [h.listened] at hlistened hsame
    exact ⟨⟨m, untold', hlistened⟩, congrArg Machine.memory hsame⟩
  stays := by
    rintro link address words ⟨m, untold, htuned⟩ hshort
    obtain ⟨result, next, m', hmake, hnext, -⟩ := h.make_writeWords hboard htuned address hshort
    rw [hmake]
    exact ⟨m', untold, hnext⟩
  stores := by
    rintro link address words reply ⟨m, untold, htuned⟩ hshort hreply
    obtain ⟨result, next, m', hmake, hnext, hstored, -⟩ :=
      h.make_writeWords hboard htuned address hshort
    rw [hmake] at hreply ⊢
    exact (congrArg Machine.memory hnext.machine_eq).trans
      ((hstored reply hreply).trans (congrArg (·.memory.writeWords address words)
        htuned.machine_eq.symm))
  refuses := by
    rintro link address words error ⟨m, untold, htuned⟩ hshort herror
    obtain ⟨result, next, m', hmake, hnext, -, hrefused⟩ :=
      h.make_writeWords hboard htuned address hshort
    rw [hmake] at herror ⊢
    exact congrArg Machine.memory
      (hnext.machine_eq.trans ((hrefused error herror).trans htuned.machine_eq.symm))

/-- The memory of a board, behind a bus that always works. -/
def server (h : Relays f works) (hworks : ∀ bus, works bus) (hboard : IsBoard options view) :
    WordServer γ where
  toWordStore := h.store hboard
  grants := by
    rintro link address words ⟨m, untold, htuned⟩ hshort
    obtain ⟨next, hmake, -⟩ :=
      h.make hboard htuned (hworks link.bus) (serve_writeWords m address hshort)
    exact ⟨_, congrArg Prod.fst hmake⟩
  reads := by
    rintro link address count ⟨m, untold, htuned⟩ hcount
    obtain ⟨next, hmake, hnext⟩ :=
      h.make hboard htuned (hworks link.bus) (serve_readWords m address hcount)
    have hmemory : (view (f link.bus)).machine.memory = m.memory :=
      congrArg Machine.memory htuned.machine_eq
    refine ⟨next, ?_, ⟨m, _, hnext⟩, ?_⟩
    · change (Move.readWords address count).make link =
        (.ok (wordBytes ((view (f link.bus)).machine.memory.readWords address count)), next)
      rw [hmemory]
      exact hmake
    · exact (congrArg Machine.memory hnext.machine_eq).trans hmemory.symm

end Relays

theorem relays_watched : Relays (Watched.bus : Watched β → β) fun _ => True where
  write _ _ _ := ⟨rfl, trivial⟩
  refuse _ _ h := absurd trivial h
  receive _ := rfl

/-- Words are read and written by commands that make up the area. If the device serves them from a
word memory, that is to read and write its memory, as on a simulated device; after a reply with
another number of words or a refused command nothing more is asked. -/
theorem serve_words (link : Hf2Link (Watched β)) (address count : UInt32) (words : List UInt32)
    (hread : address.toNat + 4 * count.toNat ≤ UInt32.size)
    (hwrite : address.toNat + 4 * words.length ≤ UInt32.size) :
    let read := link.serve (.readWords address count)
    let written := link.serve (.writeWords address words)
    link.Makes (.readWords address count)
      ((spans address count.toNat).map fun (address, count) => .readWords address count) ∧
    Tiles address count.toNat (spans address count.toNat) ∧
    link.Makes (.writeWords address words)
      ((placed address words).map fun (address, words) => .writeWords address words) ∧
    Tiles address words.length
      ((placed address words).map fun (address, words) => (address, words.length)) ∧
    (placed address words).flatMap (·.2) = words ∧
    (∀ server : WordServer (Watched β), server.leads link →
      read.answer = .ok ((places address count.toNat).map fun place =>
        (server.memory link).read (.ofNat place)) ∧
      server.memory read.link = server.memory link ∧
      written.answer = .ok () ∧
      (server.memory link).Stores address words (server.memory written.link) ∧
      (written.link.serve (.readWords address (.ofNat words.length))).answer = .ok words ∧
      ∀ d : SimulatedDevice, d.memory = server.memory link → d.failures = [] →
        read.answer = (Link.serve d (.readWords address count)).answer ∧
        written.answer = (Link.serve d (.writeWords address words)).answer ∧
        server.memory written.link =
          (Link.serve d (.writeWords address words)).link.memory) ∧
    (∀ before turn after reply,
      (Dialogue.readWords address count.toNat).turns link = before ++ turn :: after →
      turn.result = .ok reply → ∃ span, (spans address count.toNat)[before.length]? = some span ∧
        turn.move = .readWords span.1 span.2 ∧ (reply.length ≠ 4 * span.2 →
          after = [] ∧ read.answer = .error (.malformed (misread span.1 span.2 reply)))) ∧
    ∀ before turn after error,
      (Dialogue.writeWords address words).turns link = before ++ turn :: after →
      turn.result = .error error → after = [] ∧ written.answer = .error error ∧
        ∀ store : WordStore (Watched β), store.leads link →
          (store.memory link).Stores address (words.take (maxWords * before.length))
            (store.memory written.link) := by
  intro read written
  have hreading := makes_of_each (.readWords address count) (readWords_eq address count.toNat) link
  have hwriting := makes_of_each (.writeWords address words) (writeWords_eq address words) link
  rw [List.map_map] at hreading hwriting
  have hplaced := tiles_spans hwrite
  rw [← map_length_placed] at hplaced
  refine ⟨hreading, tiles_spans hread, hwriting, hplaced, flatMap_placed address words, ?_, ?_, ?_⟩
  · intro server hleads
    obtain ⟨hwords, -, hkept⟩ := server.serve_readWords hleads address count hread
    obtain ⟨hdone, -, hstored⟩ := server.serve_writeWords hleads address words
    have hstores := (server.memory link).stores_writeWords hwrite
    rw [readWords_eq_map_places] at hwords
    rw [← hstored] at hstores
    exact ⟨hwords, hkept, hdone, hstores, server.readWords_written hleads hwrite,
      fun d hmemory hfailures => server.serve_simulated hleads hmemory hfailures hread words⟩
  · intro before turn after reply hturns hreply
    exact serve_readWords_of_ne hturns hreply
  · intro before turn after error hturns herror
    obtain ⟨rfl, hanswer⟩ := serve_writeWords_of_error hturns herror
    refine ⟨rfl, hanswer, fun store hleads => ?_⟩
    have hlength := List.length_take_le' (maxWords * before.length) words
    have harea : address.toNat + 4 * (words.take (maxWords * before.length)).length ≤
        UInt32.size := by
      omega
    have hstores := (store.memory link).stores_writeWords harea
    rw [← store.memory_serve_writeWords hleads hturns hanswer] at hstores
    exact hstores

/-- A bus to which nothing can be written any more once so many times something was received. -/
structure Tiring (β : Type) where
  bus : β
  left : Nat

instance : UsbBus (Tiring β) where
  devices tiring := UsbBus.devices tiring.bus
  openDevice tiring device :=
    (UsbBus.openDevice tiring.bus device).map fun bus => { tiring with bus }
  write tiring report :=
    if tiring.left = 0 then (.error .writing, tiring)
    else
      let (result, bus) := UsbBus.write tiring.bus report
      (result, { tiring with bus })
  receive tiring :=
    let (arrivals, bus) := UsbBus.receive tiring.bus
    (arrivals, ⟨bus, tiring.left - 1⟩)

theorem relays_tiring :
    Relays (fun watched : Watched (Tiring β) => watched.bus.bus) fun watched =>
      watched.bus.left ≠ 0 where
  write watched report h := by
    have hwrite : UsbBus.write watched report =
        ((UsbBus.write watched.bus report).1,
          ⟨(UsbBus.write watched.bus report).2, watched.written ++ [report]⟩) := rfl
    have hinner : UsbBus.write watched.bus report =
        ((UsbBus.write watched.bus.bus report).1,
          ⟨(UsbBus.write watched.bus.bus report).2, watched.bus.left⟩) := if_neg h
    rw [hwrite, hinner]
    exact ⟨rfl, h⟩
  refuse watched report h := by
    have hwrite : UsbBus.write watched report =
        ((UsbBus.write watched.bus report).1,
          ⟨(UsbBus.write watched.bus report).2, watched.written ++ [report]⟩) := rfl
    have hinner : UsbBus.write watched.bus report = (.error .writing, watched.bus) :=
      if_pos (not_not.1 h)
    rw [hwrite, hinner]
    exact ⟨.writing, _, rfl, rfl⟩
  receive _ := rfl

/-- Words for two commands are all written and read again, or only those of the first command are
written if the second one cannot be given. -/
theorem serve_words_sample :
    let words : List UInt32 := List.replicate 65 7
    let device : SimulatedDevice := .new ⟨true, false⟩
    (∃ link : Hf2Link (Watched ChattyBus),
      connect .standard ⟨.like device, []⟩ = .ok link ∧
      (link.serve (.writeWords 0x20000000 words)).answer = .ok () ∧
      ((link.serve (.writeWords 0x20000000 words)).link.serve
        (.readWords 0x20000000 65)).answer = .ok words) ∧
    ∃ link : Hf2Link (Watched (Tiring ChattyBus)),
      connect .standard ⟨⟨.like device, 2⟩, []⟩ = .ok link ∧
      (link.serve (.writeWords 0x20000000 words)).answer = .error (.usb .writing) ∧
      device.memory.Stores 0x20000000 (words.take 64)
        (link.serve (.writeWords 0x20000000 words)).link.bus.bus.bus.machine.memory := by
  intro words device
  have harea : (0x20000000 : UInt32).toNat + 4 * words.length ≤ UInt32.size := by decide
  have hplain : connect .standard (ChattyBus.like device) = .ok _ := rfl
  have htuned := (tuned_connect ChattyBus.isBoard hplain rfl rfl rfl).1
  constructor
  · let server : WordServer (Watched ChattyBus) :=
      relays_watched.server (fun _ => trivial) ChattyBus.isBoard
    obtain ⟨link, hconnect, hleads⟩ : ∃ link : Hf2Link (Watched ChattyBus),
        connect .standard ⟨.like device, []⟩ = .ok link ∧ server.leads link :=
      ⟨_, rfl, _, [], htuned⟩
    obtain ⟨-, -, -, -, -, hserver, -⟩ := serve_words link 0x20000000 65 words harea harea
    obtain ⟨-, -, hdone, -, hback, -⟩ := hserver server hleads
    exact ⟨link, hconnect, hdone, hback⟩
  · let store : WordStore (Watched (Tiring ChattyBus)) := relays_tiring.store ChattyBus.isBoard
    obtain ⟨link, hconnect, hleads, hmemory, hturns⟩ :
        ∃ link : Hf2Link (Watched (Tiring ChattyBus)),
          connect .standard ⟨⟨.like device, 2⟩, []⟩ = .ok link ∧ store.leads link ∧
          store.memory link = device.memory ∧
          ((Dialogue.writeWords 0x20000000 words).turns link).map (·.result) =
            [.ok [], .error (.usb .writing)] :=
      ⟨_, rfl, ⟨_, [], htuned⟩, rfl, by decide +kernel⟩
    obtain ⟨first, rest, hall, -, hrest⟩ := List.map_eq_cons_iff.1 hturns
    obtain ⟨second, after, rfl, hsecond, -⟩ := List.map_eq_cons_iff.1 hrest
    obtain ⟨-, -, -, -, -, -, -, hrefused⟩ :=
      serve_words link 0x20000000 65 words harea harea
    obtain ⟨-, hanswer, hstores⟩ := hrefused [first] second after _ hall hsecond
    have hstored := hstores store hleads
    rw [hmemory] at hstored
    exact ⟨link, hconnect, hanswer, hstored⟩

end Hf2Link

end BoardDebug
