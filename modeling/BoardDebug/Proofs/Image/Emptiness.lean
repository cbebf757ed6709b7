import BoardDebug.Proofs.Image.IntelHex
import BoardDebug.Proofs.Image.Uf2

namespace BoardDebug

namespace Image

theorem isEmpty_iff {image : Image} : image.isEmpty = true ↔ image.cells = [] := by
  rw [isEmpty, beq_iff_eq, size_eq, List.length_eq_zero_iff]

/-- An image without bytes touches no page, and any other image does. -/
theorem pages_eq_nil {image : Image} (pageSize : Nat) :
    image.pages pageSize = [] ↔ image.isEmpty = true := by
  rw [isEmpty_iff]
  constructor
  · intro hpages
    refine List.eq_nil_iff_forall_not_mem.2 fun cell hcell => ?_
    obtain ⟨page, hpage, -⟩ := ((shows_pages image pageSize).touched _).2 ⟨cell, hcell, rfl⟩
    rw [hpages] at hpage
    cases hpage
  · intro hcells
    rw [pages, hcells]
    rfl

theorem add_ne_nothingToLoad (image : Image) (address : Nat) (data : Bytes) :
    image.add address data ≠ .error .nothingToLoad := by
  unfold add
  split <;> simp

end Image

namespace IntelHex

open Image (afterAll)

/-- A data record gives a byte. -/
def CarriesData (read : List Reading) : Prop :=
  ∃ offset bytes, Except.ok (.data offset bytes) ∈ read ∧ bytes ≠ []

variable {read : List Reading} {text : List Char}

theorem carriesData_iff : CarriesData read ↔ ∃ call ∈ calls read, call.2 ≠ [] := by
  induction read using List.reverseRecOn with
  | nil => simp [CarriesData, calls]
  | append_singleton before reading ih =>
    have hlast : (∃ offset bytes, Except.ok (.data offset bytes) = reading ∧ bytes ≠ []) ↔
        ∃ call ∈ call? before reading, call.2 ≠ [] := by
      unfold call?
      split
      case h_1 => simp
      case h_2 hother => simpa using fun offset bytes heq => absurd heq.symm (hother offset bytes)
    have hsplit : CarriesData (before ++ [reading]) ↔ CarriesData before ∨
        ∃ offset bytes, Except.ok (.data offset bytes) = reading ∧ bytes ≠ [] := by
      simp only [CarriesData, List.mem_append, List.mem_singleton, or_and_right, exists_or]
    rw [hsplit, ih, hlast, calls_concat]
    simp only [List.mem_append, Option.mem_toList, Option.mem_def, or_and_right, exists_or]

/-- If something is wrong with a file, there is a first record with which something is wrong. -/
theorem exists_failure (h : ¬Sound read) : ∃ before reading after error,
    read = before ++ reading :: after ∧ Sound before ∧ failure? before reading = some error := by
  induction read using List.reverseRecOn with
  | nil => exact absurd (fun _ _ _ heq => by simp at heq) h
  | append_singleton before reading ih =>
    by_cases hbefore : Sound before
    · cases hfailure : failure? before reading with
      | none => exact absurd (sound_concat.2 ⟨hbefore, hfailure⟩) h
      | some error => exact ⟨before, reading, [], error, rfl, hbefore, hfailure⟩
    · obtain ⟨first, bad, after, error, rfl, hfirst, hbad⟩ := ih hbefore
      exact ⟨first, bad, after ++ [reading], error, by simp, hfirst, hbad⟩

theorem failure?_ne_nothingToLoad (before : List Reading) (reading : Reading) :
    failure? before reading ≠ some .nothingToLoad := by
  unfold failure?
  split
  · simp
  · split <;> simp
  · simp

/-- Whatever the records of a file are, loading it comes to one of three ends. -/
theorem takeAll_cases (read : List Reading) :
    (∃ error, ¬Sound read ∧ error ≠ .nothingToLoad ∧ takeAll read = .error error) ∨
    (Sound read ∧ calls read = [] ∧ takeAll read = .error .nothingToLoad) ∨
    (Sound read ∧ calls read ≠ [] ∧ takeAll read = .ok (afterAll (calls read))) := by
  by_cases hsound : Sound read
  · by_cases hcalls : calls read = []
    · exact .inr (.inl ⟨hsound, hcalls, by rw [takeAll_of_sound hsound, if_pos hcalls]⟩)
    · exact .inr (.inr ⟨hsound, hcalls, by rw [takeAll_of_sound hsound, if_neg hcalls]⟩)
  · obtain ⟨before, reading, after, error, rfl, hbefore, hreading⟩ := exists_failure hsound
    refine .inl ⟨error, hsound, ?_, takeAll_of_failure hbefore hreading⟩
    rintro rfl
    exact failure?_ne_nothingToLoad before reading hreading

/-- Records without a byte make an image without a byte. -/
theorem isEmpty_afterAll (h : Sound read) :
    (afterAll (calls read)).isEmpty = true ↔ ¬CarriesData read := by
  have hcells : (afterAll (calls read)).cells = (calls read).flatMap Image.cellsOf := by
    rw [afterAll, Image.cells_foldl_after, List.filter_eq_self.2 fun call hcall =>
      decide_eq_true ((foldlM_take h).2 call hcall)]
    rfl
  rw [Image.isEmpty_iff, hcells, carriesData_iff, List.flatMap_eq_nil_iff]
  simp [Image.cellsOf]

/-- When an image is loaded from a text, and which one. -/
theorem ofIntelHex_eq_ok {image : Image} : Image.ofIntelHex text = .ok image ↔
    Sound (readings (Text.lines text)) ∧ calls (readings (Text.lines text)) ≠ [] ∧
      image = afterAll (calls (readings (Text.lines text))) := by
  rw [ofIntelHex_eq]
  obtain ⟨error, hsound, -, hread⟩ | ⟨hsound, hcalls, hread⟩ | ⟨hsound, hcalls, hread⟩ :=
    takeAll_cases (readings (Text.lines text))
  · simp [hread, hsound]
  · simp [hread, hcalls]
  · simp [hread, hsound, hcalls, eq_comm]

/-- When there is nothing to load. -/
theorem ofIntelHex_eq_nothingToLoad : Image.ofIntelHex text = .error .nothingToLoad ↔
    Sound (readings (Text.lines text)) ∧
      ∀ offset bytes, .ok (.data offset bytes) ∉ readings (Text.lines text) := by
  rw [ofIntelHex_eq, ← calls_eq_nil]
  obtain ⟨error, hsound, herror, hread⟩ | ⟨hsound, hcalls, hread⟩ | ⟨-, hcalls, hread⟩ :=
    takeAll_cases (readings (Text.lines text))
  · simp [hread, hsound, herror]
  · simp [hread, hsound, hcalls]
  · simp [hread, hcalls]

theorem isEmpty_ofIntelHex {image : Image} (h : Image.ofIntelHex text = .ok image) :
    image.isEmpty = true ↔ ¬CarriesData (readings (Text.lines text)) := by
  obtain ⟨hsound, -, rfl⟩ := ofIntelHex_eq_ok.1 h
  exact isEmpty_afterAll hsound

/-- An image without bytes is loaded if there are data records and all of them are empty. -/
theorem exists_ofIntelHex_isEmpty :
    (∃ image, Image.ofIntelHex text = .ok image ∧ image.isEmpty = true) ↔
      Sound (readings (Text.lines text)) ∧
      (∃ offset, .ok (.data offset []) ∈ readings (Text.lines text)) ∧
      ¬CarriesData (readings (Text.lines text)) := by
  constructor
  · rintro ⟨image, hload, hempty⟩
    obtain ⟨hsound, hcalls, -⟩ := ofIntelHex_eq_ok.1 hload
    have hbare := (isEmpty_ofIntelHex hload).1 hempty
    rw [Ne, calls_eq_nil] at hcalls
    push Not at hcalls
    obtain ⟨offset, bytes, hmem⟩ := hcalls
    obtain rfl : bytes = [] := by
      by_contra hbytes
      exact hbare ⟨offset, bytes, hmem, hbytes⟩
    exact ⟨hsound, ⟨offset, hmem⟩, hbare⟩
  · rintro ⟨hsound, ⟨offset, hmem⟩, hbare⟩
    have hcalls : calls (readings (Text.lines text)) ≠ [] := fun hnone =>
      calls_eq_nil.1 hnone offset [] hmem
    exact ⟨_, ofIntelHex_eq_ok.2 ⟨hsound, hcalls, rfl⟩, (isEmpty_afterAll hsound).2 hbare⟩

end IntelHex

namespace Uf2

/-- A block that names a family gives a byte. -/
def CarriesData (file : List Block) : Prop :=
  ∃ b ∈ file, b.hasFamily ∧ b.payload ≠ []

/-- A block is put behind zeros. -/
def IsPadded (file : List Block) : Prop :=
  ∃ first b later, file = first ++ b :: later ∧ (laid first).gap b ≠ 0

theorem isPadded_concat {first : List Block} {b : Block} :
    IsPadded (first ++ [b]) ↔ IsPadded first ∨ (laid first).gap b ≠ 0 := by
  constructor
  · rintro ⟨before, c, later, heq, hgap⟩
    obtain rfl | ⟨later, last, rfl⟩ := later.eq_nil_or_concat'
    · obtain ⟨rfl, hlast⟩ := List.append_inj' heq rfl
      cases hlast
      exact .inr hgap
    · rw [← List.cons_append, ← List.append_assoc] at heq
      exact .inl ⟨before, c, later, (List.append_inj' heq rfl).1, hgap⟩
  · rintro (⟨before, c, later, rfl, hgap⟩ | hgap)
    · exact ⟨before, c, later ++ [b], by simp, hgap⟩
    · exact ⟨first, b, [], rfl, hgap⟩

/-- What a file decodes to is made of the data of its blocks and of the zeros between them. -/
theorem output_laid_eq_nil {file : List Block} :
    (laid file).output = [] ↔ ¬CarriesData file ∧ ¬IsPadded file := by
  induction file using List.reverseRecOn with
  | nil => simp [laid, State.initial, CarriesData, IsPadded]
  | append_singleton first b ih =>
    have hlaid : laid (first ++ [b]) = (laid first).add b := by simp [laid]
    have hcarries : CarriesData (first ++ [b]) ↔
        CarriesData first ∨ b.hasFamily ∧ b.payload ≠ [] := by
      simp [CarriesData, or_and_right, exists_or]
    have hdata : (if b.hasFamily then b.payload else []) = [] ↔
        ¬(b.hasFamily ∧ b.payload ≠ []) := by
      cases b.hasFamily <;> simp
    rw [hlaid, State.add, hcarries, isPadded_concat]
    simp only [List.append_eq_nil_iff, ih, hdata, List.replicate_eq_nil_iff]
    tauto

theorem lowest?_eq_none {file : List Block} :
    lowest? file = none ↔ ∀ b ∈ file, ¬b.hasFamily := by
  rw [lowest?, List.min?_eq_none_iff, List.map_eq_nil_iff, List.filter_eq_nil_iff]

/-- When there is nothing to load. -/
theorem ofUf2_eq_nothingToLoad {bytes : Bytes} : Image.ofUf2 bytes = .error .nothingToLoad ↔
    State.initial.AcceptsAll (flashed bytes) ∧ ∀ b ∈ flashed bytes, ¬b.hasFamily := by
  rw [← lowest?_eq_none]
  unfold Image.ofUf2 decode
  cases hresult : State.initial.run (blocks bytes) with
  | error fault =>
    have hrefused : ¬State.initial.AcceptsAll (flashed bytes) := fun haccepts => by
      rw [run_eq_ok.2 ⟨haccepts, rfl⟩] at hresult
      cases hresult
    simp [Except.map, hrefused]
  | ok t =>
    obtain ⟨haccepts, rfl⟩ :
        State.initial.AcceptsAll (flashed bytes) ∧ t = laid (flashed bytes) := run_eq_ok.1 hresult
    simp only [Except.map, haccepts, true_and, min?_starts_laid]
    cases lowest? (flashed bytes) with
    | none => simp
    | some start => simp [Image.add_ne_nothingToLoad]

theorem exists_ofUf2_eq_ok {bytes : Bytes} : (∃ image, Image.ofUf2 bytes = .ok image) ↔
    State.initial.AcceptsAll (flashed bytes) ∧ ∃ start, lowest? (flashed bytes) = some start ∧
      start.toNat + (laid (flashed bytes)).output.length ≤ UInt32.size := by
  constructor
  · rintro ⟨image, hload⟩
    obtain ⟨haccepts, start, hstart, hfits, -⟩ := ofUf2_eq_ok.1 hload
    exact ⟨haccepts, start, hstart, hfits⟩
  · rintro ⟨haccepts, start, hstart, hfits⟩
    exact ⟨_, ofUf2_eq_ok.2 ⟨haccepts, start, hstart, hfits, rfl⟩⟩

theorem isEmpty_ofUf2 {bytes : Bytes} {image : Image} (h : Image.ofUf2 bytes = .ok image) :
    image.isEmpty = true ↔ ¬CarriesData (flashed bytes) ∧ ¬IsPadded (flashed bytes) := by
  obtain ⟨-, start, -, -, rfl⟩ := ofUf2_eq_ok.1 h
  rw [← output_laid_eq_nil, Image.isEmpty, Image.size]
  simp

/-- An image without bytes is loaded if there are blocks of a family, all of them are empty, and
there are no gaps between them. -/
theorem exists_ofUf2_isEmpty {bytes : Bytes} :
    (∃ image, Image.ofUf2 bytes = .ok image ∧ image.isEmpty = true) ↔
      State.initial.AcceptsAll (flashed bytes) ∧ (∃ b ∈ flashed bytes, b.hasFamily) ∧
      ¬CarriesData (flashed bytes) ∧ ¬IsPadded (flashed bytes) := by
  constructor
  · rintro ⟨image, hload, hempty⟩
    obtain ⟨haccepts, start, hstart, -, -⟩ := ofUf2_eq_ok.1 hload
    have hsome : lowest? (flashed bytes) ≠ none := by simp [hstart]
    rw [Ne, lowest?_eq_none] at hsome
    push Not at hsome
    exact ⟨haccepts, hsome, (isEmpty_ofUf2 hload).1 hempty⟩
  · rintro ⟨haccepts, ⟨b, hb, hfamily⟩, hbare⟩
    obtain ⟨start, hstart⟩ := Option.ne_none_iff_exists'.1 fun hnone =>
      lowest?_eq_none.1 hnone b hb hfamily
    have hfits : start.toNat + (laid (flashed bytes)).output.length ≤ UInt32.size := by
      rw [output_laid_eq_nil.2 hbare]
      exact Nat.le_of_lt start.toNat_lt
    obtain ⟨image, hload⟩ := exists_ofUf2_eq_ok.2 ⟨haccepts, start, hstart, hfits⟩
    exact ⟨image, hload, (isEmpty_ofUf2 hload).2 hbare⟩

end Uf2

/-- When an image without bytes is loaded, so that no page of it is ever written, and when a file is
refused because there is nothing to load. A file without a byte of data is not refused for that
reason alone. -/
theorem Image.loaded_isEmpty_iff (text : List Char) (bytes : Bytes) :
    (∀ image, Image.ofIntelHex text = .ok image → (image.isEmpty = true ↔
      ¬IntelHex.CarriesData (IntelHex.readings (Text.lines text)))) ∧
    ((∃ image, Image.ofIntelHex text = .ok image ∧ image.isEmpty = true) ↔
      IntelHex.Sound (IntelHex.readings (Text.lines text)) ∧
      (∃ offset, .ok (.data offset []) ∈ IntelHex.readings (Text.lines text)) ∧
      ¬IntelHex.CarriesData (IntelHex.readings (Text.lines text))) ∧
    (Image.ofIntelHex text = .error .nothingToLoad ↔
      IntelHex.Sound (IntelHex.readings (Text.lines text)) ∧
      ∀ offset bytes, .ok (.data offset bytes) ∉ IntelHex.readings (Text.lines text)) ∧
    (∀ image, Image.ofUf2 bytes = .ok image → (image.isEmpty = true ↔
      ¬Uf2.CarriesData (Uf2.flashed bytes) ∧ ¬Uf2.IsPadded (Uf2.flashed bytes))) ∧
    ((∃ image, Image.ofUf2 bytes = .ok image) ↔
      Uf2.State.initial.AcceptsAll (Uf2.flashed bytes) ∧
      ∃ start, Uf2.lowest? (Uf2.flashed bytes) = some start ∧
        start.toNat + (Uf2.laid (Uf2.flashed bytes)).output.length ≤ UInt32.size) ∧
    ((∃ image, Image.ofUf2 bytes = .ok image ∧ image.isEmpty = true) ↔
      Uf2.State.initial.AcceptsAll (Uf2.flashed bytes) ∧
      (∃ b ∈ Uf2.flashed bytes, b.hasFamily) ∧
      ¬Uf2.CarriesData (Uf2.flashed bytes) ∧ ¬Uf2.IsPadded (Uf2.flashed bytes)) ∧
    (Image.ofUf2 bytes = .error .nothingToLoad ↔
      Uf2.State.initial.AcceptsAll (Uf2.flashed bytes) ∧
      ∀ b ∈ Uf2.flashed bytes, ¬b.hasFamily) ∧
    ∀ (image : Image) (pageSize : Nat), image.pages pageSize = [] ↔ image.isEmpty = true :=
  ⟨fun _ => IntelHex.isEmpty_ofIntelHex, IntelHex.exists_ofIntelHex_isEmpty,
    IntelHex.ofIntelHex_eq_nothingToLoad, fun _ => Uf2.isEmpty_ofUf2, Uf2.exists_ofUf2_eq_ok,
    Uf2.exists_ofUf2_isEmpty, Uf2.ofUf2_eq_nothingToLoad, fun image => image.pages_eq_nil⟩

/-- A record or a block without a byte is loaded as an image without a byte; of two such blocks with
a gap between them only zeros are loaded that no block gives. -/
theorem Image.loaded_empty :
    (∃ image, Image.ofIntelHex ":0000000000
:00000001FF".toList = .ok image ∧
      image.isEmpty = true ∧ ∀ pageSize, image.pages pageSize = []) ∧
    (∃ image, Image.ofUf2 (Uf2.Block.sample 1 0x2000 []) = .ok image ∧
      image.isEmpty = true ∧ ∀ pageSize, image.pages pageSize = []) ∧
    ∃ bytes, ¬Uf2.CarriesData (Uf2.flashed bytes) ∧
      Image.ofUf2 bytes = .ok ⟨[⟨0x2000, [0, 0, 0, 0]⟩]⟩ := by
  have hrecord : Image.ofIntelHex ":0000000000\n:00000001FF".toList = .ok ⟨[⟨0, []⟩]⟩ := by
    decide +kernel
  have hblock : Image.ofUf2 (Uf2.Block.sample 1 0x2000 []) = .ok ⟨[⟨0x2000, []⟩]⟩ := by
    decide +kernel
  have hgap : Uf2.flashed (Uf2.Block.sample 1 0x2000 [] ++ Uf2.Block.sample 1 0x2004 []) =
      [⟨0x2000, 0, true, 1, []⟩, ⟨0x2004, 0, true, 1, []⟩] := by
    decide +kernel
  refine ⟨⟨_, hrecord, rfl, fun _ => rfl⟩, ⟨_, hblock, rfl, fun _ => rfl⟩, _, ?_,
    (by decide +kernel :
      Image.ofUf2 (Uf2.Block.sample 1 0x2000 [] ++ Uf2.Block.sample 1 0x2004 []) = _)⟩
  rw [hgap]
  simp [Uf2.CarriesData]

end BoardDebug
