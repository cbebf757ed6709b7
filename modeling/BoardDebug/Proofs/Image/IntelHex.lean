import BoardDebug.Proofs.Image.Pages
import Mathlib.Data.List.Basic
import Mathlib.Data.List.Induction

namespace BoardDebug

namespace IntelHex

open Image (afterAll)

/-- What a line is read as. -/
abbrev Reading := Except Fault Record

/-- Nothing is read behind the end of file record or a line that is no record. -/
def Reading.isLast : Reading → Bool
  | .error _ => true
  | .ok .endOfFile => true
  | .ok _ => false

/-- What is read of a file: its lines up to the last that is read, without empty ones. -/
def readings (lines : List (List Char)) : List Reading :=
  upToLast ((lines.filter (!·.isEmpty)).map Record.ofLine)
where
  upToLast : List Reading → List Reading
    | [] => []
    | reading :: later =>
      if reading.isLast then [reading] else reading :: upToLast later

/-- The address from which data records count behind others: the last of them to set it decides. -/
def baseAfter (before : List Reading) : Nat :=
  (before.reverse.findSome? sets?).getD 0
where
  sets? : Reading → Option Nat
    | .ok (.segment number) => some (number * 16)
    | .ok (.linear number) => some (number * 65536)
    | _ => none

/-- The bytes that a record adds behind others, with the address at which they start. -/
def call? (before : List Reading) : Reading → Option (Nat × Bytes)
  | .ok (.data offset bytes) => some (baseAfter before + offset, bytes)
  | _ => none

/-- All bytes that records add. -/
def calls (read : List Reading) : List (Nat × Bytes) :=
  read.zipIdx.filterMap fun (reading, place) => call? (read.take place) reading

/-- What is wrong with a record behind others. -/
def failure? (before : List Reading) : Reading → Option ImageError
  | .error fault => some (.record fault)
  | .ok (.data offset bytes) =>
    if UInt32.size < baseAfter before + offset + bytes.length then
      some (.overflow (baseAfter before + offset))
    else none
  | .ok _ => none

/-- Nothing is wrong with any of the records. -/
def Sound (read : List Reading) : Prop :=
  ∀ before reading after, read = before ++ reading :: after → failure? before reading = none

/-- Takes one record, with the address from which data records count. -/
def take (state : Nat × Image) : Reading → Except ImageError (Nat × Image)
  | .error fault => .error (.record fault)
  | .ok (.data offset bytes) => (state.2.add (state.1 + offset) bytes).map (state.1, ·)
  | .ok (.segment number) => .ok (number * 16, state.2)
  | .ok (.linear number) => .ok (number * 65536, state.2)
  | .ok _ => .ok state

/-- The image that records make up. -/
def takeAll (read : List Reading) : Except ImageError Image :=
  (read.foldlM take (0, .empty)).bind fun (_, image) =>
    if image.blocks.isEmpty then .error .nothingToLoad else .ok image

variable {before read : List Reading} {reading : Reading}

theorem readings_cons_of_isEmpty {line : List Char} (h : line.isEmpty = true)
    (lines : List (List Char)) : readings (line :: lines) = readings lines := by
  simp [readings, h]

theorem readings_cons {line : List Char} (h : ¬line.isEmpty = true) (lines : List (List Char)) :
    readings (line :: lines) =
      if Reading.isLast (Record.ofLine line) then [Record.ofLine line]
      else Record.ofLine line :: readings lines := by
  simp [readings, h, readings.upToLast]

/-- What comes of loading, apart from whether there was anything to load. -/
def Outcome.toExcept : Outcome → Except ImageError Image
  | loaded image => .ok image
  | badRecord fault => .error (.record fault)
  | overflow address => .error (.overflow address)

/-- Loading takes what is read, one record after the other. -/
theorem toExcept_load (base : Nat) (image : Image) (lines : List (List Char)) :
    (load base image lines).toExcept =
      ((readings lines).foldlM take (base, image)).map (·.2) := by
  fun_induction load base image lines with
  | case1 => rfl
  | case2 base image line lines hempty ih => rw [ih, readings_cons_of_isEmpty hempty]
  | case3 base image line lines hempty fault hline =>
    rw [readings_cons hempty, hline]
    rfl
  | case4 base image line lines hempty offset bytes hline larger hadd ih =>
    have htake : take (base, image) (.ok (.data offset bytes)) = .ok (base, larger) := by
      simp [take, Image.add, hadd, Except.map]
    rw [readings_cons hempty, hline, ih]
    simp [Reading.isLast, htake, bind, Except.bind]
  | case5 base image line lines hempty offset bytes hline hadd =>
    have htake : take (base, image) (.ok (.data offset bytes)) =
        .error (.overflow (base + offset)) := by
      simp [take, Image.add, hadd, Except.map]
    rw [readings_cons hempty, hline]
    simp [Reading.isLast, htake, bind, Except.bind, Except.map, Outcome.toExcept]
  | case6 base image line lines hempty hline =>
    rw [readings_cons hempty, hline]
    rfl
  | case7 base image line lines hempty number hline ih
  | case8 base image line lines hempty number hline ih =>
    rw [readings_cons hempty, hline, ih]
    rfl
  | case9 base image line lines hempty hline ih | case10 base image line lines hempty hline ih =>
    rw [readings_cons hempty, hline, ih]
    rfl

theorem ofIntelHex_eq (text : List Char) :
    Image.ofIntelHex text = takeAll (readings (Text.lines text)) := by
  have hload := toExcept_load 0 .empty (Text.lines text)
  rw [Image.ofIntelHex, takeAll]
  cases hread : (readings (Text.lines text)).foldlM take (0, .empty) with
  | error error =>
    rw [hread] at hload
    cases hcase : load 0 .empty (Text.lines text) <;> rw [hcase] at hload <;> cases hload <;> rfl
  | ok state =>
    rw [hread] at hload
    cases hcase : load 0 .empty (Text.lines text) <;> rw [hcase] at hload <;> cases hload
    rfl

/-! ### What records add behind others -/

theorem baseAfter_concat (before : List Reading) (reading : Reading) :
    baseAfter (before ++ [reading]) = (baseAfter.sets? reading).getD (baseAfter before) := by
  cases h : baseAfter.sets? reading <;> simp [baseAfter, h]

theorem calls_concat (before : List Reading) (reading : Reading) :
    calls (before ++ [reading]) = calls before ++ (call? before reading).toList := by
  have hsame : before.zipIdx.filterMap (fun (r, place) =>
      call? ((before ++ [reading]).take place) r) = calls before := by
    refine List.filterMap_congr fun (r, place) hmem => ?_
    have hlt : place < before.length := by simpa using List.snd_lt_of_mem_zipIdx hmem
    exact congrArg (call? · r) (List.take_append_of_le_length (Nat.le_of_lt hlt))
  rw [calls, List.zipIdx_append, List.filterMap_append, hsame]
  cases h : call? before reading <;> simp [h]

theorem sound_concat :
    Sound (before ++ [reading]) ↔ Sound before ∧ failure? before reading = none := by
  constructor
  · intro h
    refine ⟨fun earlier r later hbefore => h earlier r (later ++ [reading]) (by simp [hbefore]), ?_⟩
    exact h before reading [] rfl
  · rintro ⟨hbefore, hreading⟩ earlier r later heq
    obtain rfl | ⟨later, last, rfl⟩ := later.eq_nil_or_concat'
    · obtain ⟨rfl, hlast⟩ := List.append_inj' heq rfl
      cases hlast
      exact hreading
    · rw [← List.cons_append, ← List.append_assoc] at heq
      exact hbefore earlier r later (List.append_inj' heq rfl).1

/-- What is wrong with a record is what is wrong with adding its bytes. -/
theorem failure?_data (before : List Reading) (offset : Nat) (bytes : Bytes) :
    failure? before (.ok (.data offset bytes)) =
      if Image.IsLegal (baseAfter before + offset, bytes) then none
      else some (.overflow (baseAfter before + offset)) := by
  by_cases hlegal : Image.IsLegal (baseAfter before + offset, bytes)
  · rw [failure?, if_neg (Nat.not_lt.2 hlegal), if_pos hlegal]
  · rw [failure?, if_pos (Nat.not_le.1 hlegal), if_neg hlegal]

/-- A record with which nothing is wrong adds its bytes, or sets the address, or does nothing. -/
theorem take_of_sound (h : failure? before reading = none) (image : Image) :
    take (baseAfter before, image) reading =
      .ok (baseAfter (before ++ [reading]), (call? before reading).toList.foldl Image.after image) ∧
      ∀ call ∈ call? before reading, Image.IsLegal call := by
  rw [baseAfter_concat]
  cases reading with
  | error fault => cases h
  | ok record =>
    cases record with
    | data offset bytes =>
      have hlegal : Image.IsLegal (baseAfter before + offset, bytes) := by
        simpa [failure?_data] using h
      simp [take, call?, (image.add_of_legal hlegal).1, Except.map, baseAfter.sets?, hlegal]
    | _ => exact ⟨rfl, by simp [call?]⟩

theorem take_of_failure {error : ImageError} (h : failure? before reading = some error)
    (image : Image) : take (baseAfter before, image) reading = .error error := by
  cases reading with
  | error fault =>
    cases h
    rfl
  | ok record =>
    cases record with
    | data offset bytes =>
      rw [failure?_data] at h
      split at h
      case isTrue => cases h
      case isFalse hlegal =>
        cases h
        rw [take, (image.add_of_not_legal hlegal).1]
        rfl
    | _ => cases h

/-- Records with which nothing is wrong are taken, all of them. -/
theorem foldlM_take (h : Sound before) :
    before.foldlM take (0, .empty) = .ok (baseAfter before, afterAll (calls before)) ∧
      ∀ call ∈ calls before, Image.IsLegal call := by
  induction before using List.reverseRecOn with
  | nil => exact ⟨rfl, by simp [calls]⟩
  | append_singleton before reading ih =>
    obtain ⟨hbefore, hreading⟩ := sound_concat.1 h
    obtain ⟨hall, hlegal⟩ := ih hbefore
    obtain ⟨htake, hnew⟩ := take_of_sound hreading (afterAll (calls before))
    rw [calls_concat]
    refine ⟨?_, List.forall_mem_append.2 ⟨hlegal, fun call hcall => ?_⟩⟩
    case refine_2 => exact hnew call (by simpa using hcall)
    have hcalls : afterAll (calls before ++ (call? before reading).toList) =
        (call? before reading).toList.foldl Image.after (afterAll (calls before)) :=
      List.foldl_append
    rw [List.foldlM_append, hall, hcalls]
    change (take (baseAfter before, afterAll (calls before)) reading).bind _ = _
    rw [htake]
    rfl

/-- The first record with which something is wrong is the last that is taken. -/
theorem takeAll_of_failure {after : List Reading} {error : ImageError} (hbefore : Sound before)
    (hreading : failure? before reading = some error) :
    takeAll (before ++ reading :: after) = .error error := by
  rw [takeAll, List.foldlM_append, (foldlM_take hbefore).1]
  simp [bind, Except.bind, take_of_failure hreading]

theorem append_ne_nil (address : Nat) (data : Bytes) (blocks : List Block) :
    Image.append address data blocks ≠ [] := by
  fun_induction Image.append address data blocks <;> exact List.cons_ne_nil _ _

/-- Whatever is added makes a block, even if it has no bytes. -/
theorem blocks_afterAll {calls : List (Nat × Bytes)} (h : ∀ call ∈ calls, Image.IsLegal call) :
    (afterAll calls).blocks = [] ↔ calls = [] := by
  obtain rfl | ⟨before, call, rfl⟩ := calls.eq_nil_or_concat'
  · exact iff_of_true rfl rfl
  · have hlegal : call.1 + call.2.length ≤ 0x100000000 := h call (by simp)
    have hblocks : (afterAll (before ++ [call])).blocks =
        Image.append call.1 call.2 (afterAll before).blocks := by
      rw [Image.afterAll_concat, Image.after, Image.add, Image.add?, if_pos hlegal]
      rfl
    rw [hblocks]
    exact iff_of_false (append_ne_nil _ _ _) (by simp)

theorem takeAll_of_sound (h : Sound read) :
    takeAll read =
      if calls read = [] then .error .nothingToLoad else .ok (afterAll (calls read)) := by
  obtain ⟨hall, hlegal⟩ := foldlM_take h
  rw [takeAll, hall]
  simp [Except.bind, blocks_afterAll hlegal]

/-- Only data records add bytes. -/
theorem calls_eq_nil :
    calls read = [] ↔ ∀ offset bytes, Except.ok (.data offset bytes) ∉ read := by
  induction read using List.reverseRecOn with
  | nil => simp [calls]
  | append_singleton before reading ih =>
    have hnone : call? before reading = none ↔
        ∀ offset bytes, reading ≠ .ok (.data offset bytes) := by
      unfold call?
      split <;> simp_all
    rw [calls_concat, List.append_eq_nil_iff, ih, Option.toList_eq_nil_iff, hnone]
    simp [forall_and, eq_comm]

/-- The records of a file are taken in their order, up to the first with which something is wrong.
If there is none, the image holds what the data records say, each where the last record before it
that sets the address puts it. -/
theorem ofIntelHex_readings (text : List Char) :
    let read := readings (Text.lines text)
    (∀ before reading after error, read = before ++ reading :: after → Sound before →
      failure? before reading = some error → Image.ofIntelHex text = .error error) ∧
    (Sound read → (∀ offset bytes, .ok (.data offset bytes) ∉ read) →
      Image.ofIntelHex text = .error .nothingToLoad) ∧
    (Sound read → (∃ offset bytes, .ok (.data offset bytes) ∈ read) →
      ∃ image, Image.ofIntelHex text = .ok image ∧
        image.cells = (calls read).flatMap Image.cellsOf) := by
  intro read
  rw [ofIntelHex_eq]
  refine ⟨?_, fun hsound hnone => ?_, fun hsound hsome => ?_⟩
  · intro before reading after error hread hbefore hreading
    rw [← takeAll_of_failure hbefore hreading, ← hread]
  · rw [takeAll_of_sound hsound, if_pos (calls_eq_nil.2 hnone)]
  · have hcalls : calls read ≠ [] := fun hnil => by
      obtain ⟨offset, bytes, hmem⟩ := hsome
      exact calls_eq_nil.1 hnil offset bytes hmem
    refine ⟨_, by rw [takeAll_of_sound hsound, if_neg hcalls], ?_⟩
    have hlegal : (calls read).filter Image.IsLegal = calls read :=
      List.filter_eq_self.2 fun call hcall => decide_eq_true ((foldlM_take hsound).2 call hcall)
    rw [afterAll, Image.cells_foldl_after, hlegal]
    rfl

/-- Two bytes at the end of the last 64 KiB, and one that counts from a segment. -/
example :
    (Image.ofIntelHex (":02000004FFFFFC\n:02FFFE000102FE\n\n:020000021000EC\n" ++
      ":0100000003FC\n:00000001FF\nnot read").toList).toOption.map Image.cells =
      some [(0xfffffffe, 1), (0xffffffff, 2), (0x10000, 3)] := by
  decide +kernel

end IntelHex

end BoardDebug
