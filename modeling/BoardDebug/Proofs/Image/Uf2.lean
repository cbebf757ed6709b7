import BoardDebug.Proofs.Image.Pages
import Mathlib.Data.List.Forall2
import Mathlib.Data.List.Induction

namespace BoardDebug.Uf2

/-- The blocks of a file that are to be flashed, in the order of the file. -/
def flashed (bytes : Bytes) : List Block :=
  (blocks bytes).filterMap (·.2)

/-- The byte that a block gives for an address. Only a block that names a family gives any. -/
def Block.byteAt? (b : Block) (address : Nat) : Option UInt8 :=
  if b.hasFamily ∧ b.address.toNat ≤ address then b.payload[address - b.address.toNat]? else none

/-- The byte that a file names for an address, which is that of the last block to give one. -/
def named? : List Block → Nat → Option UInt8
  | [], _ => none
  | b :: later, address => (named? later address).or (b.byteAt? address)

/-- The lowest address that carries data. -/
def lowest? (file : List Block) : Option UInt32 :=
  ((file.filter (·.hasFamily)).map (·.address)).min?

/-- The number of zeros that a block is put behind. -/
def State.gap (s : State) (b : Block) : Nat :=
  (b.address - if s.startsAnew b then b.address else s.cursor.getD b.address).toNat

/-- A block can be put behind what is there. -/
structure State.Accepts (s : State) (b : Block) : Prop where
  size : b.size ≤ 476
  gap : s.gap b ≤ maxPadding
  aligned : s.gap b % 4 = 0

/-- What is there after a block was put behind it. -/
def State.add (s : State) (b : Block) : State where
  output := s.output ++ List.replicate (s.gap b) 0 ++ if b.hasFamily then b.payload else []
  cursor := some (b.address + .ofNat b.size)
  family := if s.startsAnew b then some b.family else s.familyFor b
  starts :=
    if b.hasFamily then
      match s.starts.lookup b.family with
      | some start => if b.address < start then (b.family, b.address) :: s.starts else s.starts
      | none => (b.family, b.address) :: s.starts
    else s.starts

/-- All blocks can be put one behind the other. -/
def State.AcceptsAll (s : State) : List Block → Prop
  | [] => True
  | b :: later => s.Accepts b ∧ (s.add b).AcceptsAll later

/-- What a file decodes to, if nothing is wrong with it. -/
def laid (file : List Block) : State :=
  file.foldl State.add .initial

/-- Where the data of a block come to lie in what a file decodes to. -/
def position (first : List Block) (b : Block) : Nat :=
  (laid first).output.length + (laid first).gap b

variable {s t : State} {b c : Block} {first later file other : List Block} {bytes changed : Bytes}
  {address : Nat} {byte : UInt8}

theorem put_eq_ok {number : Nat} : s.put number b = .ok t ↔ s.Accepts b ∧ t = s.add b := by
  have hput : s.put number b =
      if 476 < b.size then .error (.dataSize number)
      else if maxPadding < s.gap b then .error (.padding number)
      else if s.gap b % 4 ≠ 0 then .error (.unalignedPadding number)
      else .ok (s.add b) := rfl
  rw [hput]
  constructor
  · intro h
    split at h
    · cases h
    · split at h
      · cases h
      · split at h
        · cases h
        · cases h
          exact ⟨⟨by omega, by omega, by omega⟩, rfl⟩
  · rintro ⟨⟨hsize, hgap, haligned⟩, rfl⟩
    rw [if_neg (by omega), if_neg (by omega), if_neg (by omega)]

theorem run_eq_ok {numbered : List (Nat × Option Block)} :
    s.run numbered = .ok t ↔ s.AcceptsAll (numbered.filterMap (·.2)) ∧
      t = (numbered.filterMap (·.2)).foldl State.add s := by
  induction numbered generalizing s with
  | nil => simp [State.run, State.AcceptsAll, eq_comm]
  | cons next rest ih =>
    obtain ⟨number, _ | b⟩ := next
    · exact ih
    · have hlist : ((number, some b) :: rest).filterMap (·.2) = b :: rest.filterMap (·.2) := rfl
      rw [hlist, List.foldl_cons, State.run]
      cases hput : s.put number b with
      | error fault =>
        have hrefused : ¬s.Accepts b := by
          intro h
          rw [put_eq_ok.2 ⟨h, rfl⟩] at hput
          cases hput
        simp [State.AcceptsAll, hrefused]
      | ok next =>
        obtain ⟨haccepts, rfl⟩ := put_eq_ok.1 hput
        simp only [State.AcceptsAll, haccepts, true_and]
        exact ih

/-! The state depends on the headers of the blocks, but for the bytes themselves. -/

/-- Blocks with the same header. -/
structure Block.Like (b c : Block) : Prop where
  address : c.address = b.address
  size : c.size = b.size
  hasFamily : c.hasFamily = b.hasFamily
  family : c.family = b.family
  length : c.payload.length = b.payload.length

/-- States that differ in their bytes only. -/
structure State.Like (s t : State) : Prop where
  cursor : t.cursor = s.cursor
  family : t.family = s.family
  starts : t.starts = s.starts
  length : t.output.length = s.output.length

theorem State.Like.startsAnew (h : s.Like t) (hb : b.Like c) : t.startsAnew c = s.startsAnew b := by
  simp only [State.startsAnew, State.familyFor, h.cursor, h.family, hb.hasFamily, hb.family]

theorem State.Like.gap (h : s.Like t) (hb : b.Like c) : t.gap c = s.gap b := by
  simp only [State.gap, h.startsAnew hb, h.cursor, hb.address]

theorem State.Like.add (h : s.Like t) (hb : b.Like c) : (s.add b).Like (t.add c) where
  cursor := by simp only [State.add, hb.address, hb.size]
  family := by
    simp only [State.add, State.familyFor, h.startsAnew hb, h.family, hb.hasFamily, hb.family]
  starts := by simp only [State.add, h.starts, hb.hasFamily, hb.family, hb.address]
  length := by
    simp only [State.add, List.length_append, List.length_replicate, h.gap hb, h.length,
      hb.hasFamily]
    split
    · rw [hb.length]
    · rfl

theorem State.Like.foldl (h : s.Like t) (hfile : List.Forall₂ Block.Like file other) :
    (file.foldl State.add s).Like (other.foldl State.add t) := by
  induction hfile generalizing s t with
  | nil => exact h
  | cons hb _ ih => exact ih (h.add hb)

theorem State.Like.acceptsAll (h : s.Like t) (hfile : List.Forall₂ Block.Like file other)
    (haccepts : s.AcceptsAll file) : t.AcceptsAll other := by
  induction hfile generalizing s t with
  | nil => trivial
  | cons hb _ ih =>
    obtain ⟨⟨hsize, hgap, haligned⟩, hlater⟩ := haccepts
    rw [← hb.size] at hsize
    rw [← h.gap hb] at hgap haligned
    exact ⟨⟨hsize, hgap, haligned⟩, ih (h.add hb) hlater⟩

theorem like_laid (hfile : List.Forall₂ Block.Like file other) : (laid file).Like (laid other) :=
  State.Like.foldl ⟨rfl, rfl, rfl, rfl⟩ hfile

theorem position_of_like (hfirst : List.Forall₂ Block.Like first other) (hb : b.Like c) :
    position other c = position first b := by
  have hlike := like_laid hfirst
  rw [position, position, hlike.length, hlike.gap hb]

/-- What comes after some bytes does not depend on them. -/
theorem exists_output_foldl (later : List Block) (s : State) :
    ∃ rest, ∀ t : State, s.Like t → (later.foldl State.add t).output = t.output ++ rest := by
  induction later generalizing s with
  | nil => exact ⟨[], fun t _ => (List.append_nil _).symm⟩
  | cons b later ih =>
    obtain ⟨rest, hrest⟩ := ih (s.add b)
    refine ⟨List.replicate (s.gap b) 0 ++ (if b.hasFamily then b.payload else []) ++ rest, ?_⟩
    intro t ht
    have hb : b.Like b := ⟨rfl, rfl, rfl, rfl, rfl⟩
    rw [List.foldl_cons, hrest _ (ht.add hb)]
    simp only [State.add, ht.gap hb, List.append_assoc]

/-- The data of a block lie at its position, and around them nothing depends on them. -/
theorem exists_output_laid (first later : List Block) (hb : b.hasFamily) :
    ∃ before rest, before.length = position first b ∧ ∀ c, b.Like c →
      (laid (first ++ c :: later)).output = before ++ c.payload ++ rest := by
  obtain ⟨rest, hrest⟩ := exists_output_foldl later ((laid first).add b)
  refine ⟨(laid first).output ++ List.replicate ((laid first).gap b) 0, rest, ?_, ?_⟩
  · simp [position]
  · intro c hc
    have hs : (laid first).Like (laid first) := ⟨rfl, rfl, rfl, rfl⟩
    have hlaid : laid (first ++ c :: later) = later.foldl State.add ((laid first).add c) := by
      simp [laid]
    rw [hlaid, hrest _ (hs.add hc)]
    simp only [State.add, hs.gap hc, hc.hasFamily, hb, if_true]

/-! The lowest address. -/

/-- What is known of the lowest addresses after the blocks of a file. -/
structure State.Covers (s : State) (file : List Block) : Prop where
  carried : ∀ start ∈ s.starts, ∃ b ∈ file, b.hasFamily ∧ b.address = start.2
  reached : ∀ b ∈ file, b.hasFamily → ∃ start ∈ s.starts, start.2 ≤ b.address

theorem mem_of_lookup {family start : UInt32} {starts : List (UInt32 × UInt32)}
    (h : starts.lookup family = some start) : (family, start) ∈ starts := by
  obtain ⟨before, after, rfl, -⟩ := List.lookup_eq_some_iff.1 h
  simp

theorem State.Covers.add (h : s.Covers file) (b : Block) : (s.add b).Covers (file ++ [b]) := by
  have hold : ∀ start ∈ s.starts, ∃ c ∈ file ++ [b], c.hasFamily ∧ c.address = start.2 := by
    intro start hstart
    obtain ⟨c, hc, hcarried⟩ := h.carried start hstart
    exact ⟨c, List.mem_append_left _ hc, hcarried⟩
  by_cases hb : b.hasFamily
  case neg =>
    have hstarts : (s.add b).starts = s.starts := by simp [State.add, hb]
    refine ⟨hstarts ▸ hold, fun c hc hflag => ?_⟩
    rw [hstarts]
    obtain hc | hc := List.mem_append.1 hc
    · exact h.reached c hc hflag
    · exact absurd (List.mem_singleton.1 hc ▸ hflag) hb
  case pos =>
    have hnew : ∀ start ∈ (b.family, b.address) :: s.starts,
        ∃ c ∈ file ++ [b], c.hasFamily ∧ c.address = start.2 := by
      intro start hstart
      obtain rfl | hstart := List.mem_cons.1 hstart
      · exact ⟨b, by simp, hb, rfl⟩
      · exact hold start hstart
    -- The addresses of before stay in the list, so only the new block has to be reached.
    have hlist : ((s.add b).starts = s.starts ∧ ∃ start ∈ s.starts, start.2 ≤ b.address) ∨
        (s.add b).starts = (b.family, b.address) :: s.starts := by
      simp only [State.add, hb, if_true]
      cases hlookup : s.starts.lookup b.family with
      | none => exact .inr rfl
      | some start =>
        by_cases hlt : b.address < start
        · exact .inr (if_pos hlt)
        · exact .inl ⟨if_neg hlt, _, mem_of_lookup hlookup, UInt32.not_lt.1 hlt⟩
    obtain ⟨hstarts, start, hstart, hle⟩ | hstarts := hlist
    · refine ⟨hstarts ▸ hold, fun c hc hflag => ?_⟩
      rw [hstarts]
      obtain hc | hc := List.mem_append.1 hc
      · exact h.reached c hc hflag
      · exact ⟨start, hstart, List.mem_singleton.1 hc ▸ hle⟩
    · refine ⟨hstarts ▸ hnew, fun c hc hflag => ?_⟩
      rw [hstarts]
      obtain hc | hc := List.mem_append.1 hc
      · obtain ⟨start, hstart, hle⟩ := h.reached c hc hflag
        exact ⟨start, List.mem_cons_of_mem _ hstart, hle⟩
      · exact ⟨_, List.mem_cons_self, by rw [List.mem_singleton.1 hc]; exact UInt32.le_refl _⟩

theorem covers_laid (file : List Block) : (laid file).Covers file := by
  -- The induction is on the blocks put so far.
  have hfold : ∀ (later first : List Block) (s : State), s.Covers first →
      (later.foldl State.add s).Covers (first ++ later) := by
    intro later
    induction later with
    | nil =>
      intro first s h
      rwa [List.append_nil]
    | cons b later ih =>
      intro first s h
      rw [List.append_cons]
      exact ih _ _ (h.add b)
  exact hfold file [] .initial ⟨by simp [State.initial], by simp⟩

theorem lowest?_eq_some {start : UInt32} : lowest? file = some start ↔
    (∃ b ∈ file, b.hasFamily ∧ b.address = start) ∧
      ∀ b ∈ file, b.hasFamily → start ≤ b.address := by
  rw [lowest?, List.min?_eq_some_iff]
  simp only [List.mem_map, List.mem_filter, forall_exists_index, and_imp, and_assoc]
  refine and_congr_right' ⟨fun h b hb hflag => h _ b hb hflag rfl, ?_⟩
  rintro h _ b hb hflag rfl
  exact h b hb hflag

theorem min?_starts_laid (file : List Block) :
    ((laid file).starts.map (·.2)).min? = lowest? file := by
  have hcovers := covers_laid file
  refine Option.ext fun start => ?_
  rw [lowest?_eq_some, List.min?_eq_some_iff]
  constructor
  · rintro ⟨hmem, hle⟩
    obtain ⟨pair, hpair, rfl⟩ := List.mem_map.1 hmem
    refine ⟨hcovers.carried pair hpair, fun b hb hflag => ?_⟩
    obtain ⟨least, hleast, hbelow⟩ := hcovers.reached b hb hflag
    exact UInt32.le_trans (hle _ (List.mem_map_of_mem hleast)) hbelow
  · rintro ⟨⟨b, hb, hflag, rfl⟩, hle⟩
    have hall : ∀ pair ∈ (laid file).starts, b.address ≤ pair.2 := by
      intro pair hpair
      obtain ⟨c, hc, hcflag, heq⟩ := hcovers.carried pair hpair
      exact heq ▸ hle c hc hcflag
    obtain ⟨least, hleast, hbelow⟩ := hcovers.reached b hb hflag
    have heq : least.2 = b.address := UInt32.le_antisymm hbelow (hall least hleast)
    refine ⟨List.mem_map.2 ⟨least, hleast, heq⟩, fun other hother => ?_⟩
    obtain ⟨pair, hpair, rfl⟩ := List.mem_map.1 hother
    exact hall pair hpair

theorem lowest?_of_like (hfile : List.Forall₂ Block.Like file other) :
    lowest? other = lowest? file := by
  rw [← min?_starts_laid, ← min?_starts_laid, (like_laid hfile).starts]

/-- When an image is loaded from a file, and which one. -/
theorem ofUf2_eq_ok {image : Image} : Image.ofUf2 bytes = .ok image ↔
    State.initial.AcceptsAll (flashed bytes) ∧ ∃ start, lowest? (flashed bytes) = some start ∧
      start.toNat + (laid (flashed bytes)).output.length ≤ UInt32.size ∧
      image = ⟨[⟨start, (laid (flashed bytes)).output⟩]⟩ := by
  have hrun : ∀ t, State.initial.run (blocks bytes) = .ok t ↔
      State.initial.AcceptsAll (flashed bytes) ∧ t = laid (flashed bytes) := fun t => run_eq_ok
  unfold Image.ofUf2 decode
  cases hresult : State.initial.run (blocks bytes) with
  | error fault =>
    have hrefused : ¬State.initial.AcceptsAll (flashed bytes) := by
      intro haccepts
      rw [(hrun _).2 ⟨haccepts, rfl⟩] at hresult
      cases hresult
    simp [Except.map, hrefused]
  | ok t =>
    obtain ⟨haccepts, rfl⟩ := (hrun t).1 hresult
    simp only [Except.map, haccepts, true_and, min?_starts_laid]
    cases hlowest : lowest? (flashed bytes) with
    | none => simp
    | some start =>
      simp only [Option.some.injEq, exists_eq_left']
      unfold Image.add Image.add?
      by_cases hfits : start.toNat + (laid (flashed bytes)).output.length ≤ UInt32.size
      · rw [if_pos hfits]
        simp [hfits, Image.empty, Image.append, eq_comm]
      · rw [if_neg hfits]
        simp [hfits]

/-! Files with the same headers. -/

/-- Files whose blocks of 512 bytes have the same headers. -/
def SameHeaders (bytes other : Bytes) : Prop :=
  other.length = bytes.length ∧
    ∀ i, (other.drop (512 * i)).take 32 = (bytes.drop (512 * i)).take 32

/-- The bytes of the block with number `i`. -/
def slice (bytes : Bytes) (i : Nat) : Bytes :=
  (bytes.drop (512 * i)).take 512

theorem flashed_eq (bytes : Bytes) :
    flashed bytes = (List.range (bytes.length / 512)).filterMap fun i =>
      Block.ofBytes? (slice bytes i) := by
  simp only [flashed, blocks, List.filterMap_map]
  rfl

/-- A word of a header is in the first 32 bytes. -/
theorem header_take (block : Bytes) {i : Nat} (h : i < 8) :
    header (block.take 32) i = header block i := by
  obtain ⟨count, hcount⟩ : ∃ count, 32 - 4 * i = count + 4 := ⟨28 - 4 * i, by omega⟩
  unfold header wordAt wordFrom
  rw [List.drop_take, hcount]
  rcases block.drop (4 * i) with _ | ⟨a, _ | ⟨b, _ | ⟨c, _ | ⟨d, left⟩⟩⟩⟩ <;> rfl

/-- What a header decides: whether a block is to be flashed, and all but its data. -/
theorem ofBytes?_of_header {block changed : Bytes} (hlength : changed.length = block.length)
    (hheader : changed.take 32 = block.take 32) :
    Option.Rel Block.Like (Block.ofBytes? block) (Block.ofBytes? changed) := by
  have hword : ∀ i < 8, header changed i = header block i := by
    intro i hi
    rw [← header_take changed hi, hheader, header_take block hi]
  unfold Block.ofBytes?
  simp only [hword 0 (by omega), hword 1 (by omega), hword 2 (by omega), hword 3 (by omega),
    hword 4 (by omega), hword 7 (by omega)]
  split
  · refine .some ⟨rfl, rfl, rfl, rfl, ?_⟩
    simp [hlength]
  · exact .none

theorem SameHeaders.slice (h : SameHeaders bytes changed) (i : Nat) :
    (slice changed i).length = (slice bytes i).length ∧
      (slice changed i).take 32 = (slice bytes i).take 32 := by
  obtain ⟨hlength, hheaders⟩ := h
  refine ⟨by simp [Uf2.slice, hlength], ?_⟩
  simpa [Uf2.slice, List.take_take] using hheaders i

theorem SameHeaders.flashed (h : SameHeaders bytes changed) :
    List.Forall₂ Block.Like (flashed bytes) (flashed changed) := by
  rw [flashed_eq, flashed_eq, h.1]
  refine List.rel_filterMap (R := Eq) ?_ (List.forall₂_same.2 fun _ _ => rfl)
  rintro i _ rfl
  exact ofBytes?_of_header (h.slice i).1 (h.slice i).2

/-- The data of a block are as long as its header says. -/
theorem length_payload (hb : b ∈ flashed bytes) (hsize : b.size ≤ 476) :
    b.payload.length = b.size := by
  rw [flashed_eq] at hb
  obtain ⟨i, hi, hblock⟩ := List.mem_filterMap.1 hb
  have hlt : i < bytes.length / 512 := List.mem_range.1 hi
  unfold Block.ofBytes? at hblock
  dsimp only at hblock
  split at hblock
  · obtain rfl := Option.some.inj hblock
    simp only [slice, List.length_take, List.length_drop] at hsize ⊢
    omega
  · cases hblock

theorem slice_set_self {i n : Nat} {v : UInt8} :
    slice (bytes.set (512 * n + (32 + i)) v) n = (slice bytes n).set (32 + i) v := by
  unfold slice
  rw [List.drop_set, if_neg (by omega), List.take_set]
  congr 1
  omega

theorem slice_set_of_ne {i m n : Nat} {v : UInt8} (hi : 32 + i < 512) (hne : m ≠ n) :
    slice (bytes.set (512 * n + (32 + i)) v) m = slice bytes m := by
  unfold slice
  rw [List.drop_set]
  split
  · rfl
  · rw [List.take_set, List.set_eq_of_length_le]
    simp only [List.length_take, List.length_drop]
    omega

theorem sameHeaders_set {n i : Nat} {v : UInt8} (hi : 32 + i < 512) :
    SameHeaders bytes (bytes.set (512 * n + (32 + i)) v) := by
  refine ⟨List.length_set .., fun m => ?_⟩
  rw [List.drop_set]
  split
  · rfl
  · rw [List.take_set, List.set_eq_of_length_le]
    simp only [List.length_take, List.length_drop]
    omega

theorem ofBytes?_set {block : Bytes} {i : Nat} {v : UInt8} (h : Block.ofBytes? block = some b) :
    Block.ofBytes? (block.set (32 + i) v) = some { b with payload := b.payload.set i v } := by
  have hheader : (block.set (32 + i) v).take 32 = block.take 32 := by
    rw [List.take_set, List.set_eq_of_length_le]
    simp only [List.length_take]
    omega
  have hword : ∀ k < 8, header (block.set (32 + i) v) k = header block k := by
    intro k hk
    rw [← header_take _ hk, hheader, header_take _ hk]
  have hdata : (block.set (32 + i) v).drop 32 = (block.drop 32).set i v := by
    rw [List.drop_set, if_neg (by omega), Nat.add_sub_cancel_left]
  unfold Block.ofBytes? at h ⊢
  simp only [hword 0 (by omega), hword 1 (by omega), hword 2 (by omega), hword 3 (by omega),
    hword 4 (by omega), hword 7 (by omega), hdata, List.take_set]
  dsimp only at h
  split at h
  · next hmagic =>
    rw [if_pos hmagic]
    obtain rfl := Option.some.inj h
    rfl
  · cases h

/-- A byte of the data can be changed without anything else. -/
theorem exists_changed (h : flashed bytes = first ++ b :: later) {i : Nat}
    (hi : i < b.payload.length) (v : UInt8) : ∃ changed, SameHeaders bytes changed ∧
      flashed changed = first ++ { b with payload := b.payload.set i v } :: later := by
  rw [flashed_eq] at h
  obtain ⟨before, rest, hrange, hfirst, hrest⟩ := List.filterMap_eq_append_iff.1 h
  obtain ⟨skipped, n, after, rfl, hskipped, hn, hlater⟩ := List.filterMap_eq_cons_iff.1 hrest
  have hlength : 32 + i < 512 := by
    unfold Block.ofBytes? at hn
    dsimp only at hn
    split at hn
    · obtain rfl := Option.some.inj hn
      simp only [slice, List.length_take, List.length_drop] at hi
      omega
    · cases hn
  refine ⟨bytes.set (512 * n + (32 + i)) v, sameHeaders_set hlength, ?_⟩
  -- No block has the number `n` but the one that is changed.
  have hnodup : (before ++ (skipped ++ n :: after)).Nodup := hrange ▸ List.nodup_range
  have hother : ∀ m ∈ before ++ (skipped ++ after),
      Block.ofBytes? (slice (bytes.set (512 * n + (32 + i)) v) m) =
        Block.ofBytes? (slice bytes m) := by
    intro m hm
    have hne : m ≠ n := by
      rintro rfl
      simp only [List.mem_append, List.nodup_append, List.nodup_cons, List.mem_cons] at hm hnodup
      grind
    rw [slice_set_of_ne hlength hne]
  have hsame : ∀ numbers : List Nat, (∀ m ∈ numbers, m ∈ before ++ (skipped ++ after)) →
      (numbers.filterMap fun m => Block.ofBytes? (slice (bytes.set (512 * n + (32 + i)) v) m)) =
        numbers.filterMap fun m => Block.ofBytes? (slice bytes m) := by
    intro numbers hnumbers
    exact List.filterMap_congr fun m hm => hother m (hnumbers m hm)
  rw [flashed_eq, List.length_set, hrange, List.filterMap_append, List.filterMap_append,
    List.filterMap_cons_some (by rw [slice_set_self]; exact ofBytes?_set hn),
    hsame before (by simp +contextual), hsame skipped (by simp +contextual),
    hsame after (by simp +contextual),
    hfirst, hlater, List.filterMap_eq_nil_iff.2 hskipped, List.nil_append]

/-! Where the data of a file come to lie. -/

theorem named?_eq_some : named? file address = some byte ↔ ∃ first b later,
    file = first ++ b :: later ∧ b.byteAt? address = some byte ∧ named? later address = none := by
  induction file with
  | nil => simp [named?]
  | cons b later ih =>
    rw [named?]
    cases hlater : named? later address with
    | some found =>
      rw [Option.some_or, ← hlater, ih]
      constructor
      · rintro ⟨first, c, rest, rfl, hc, hrest⟩
        exact ⟨b :: first, c, rest, rfl, hc, hrest⟩
      · rintro ⟨first, c, rest, hsplit, hc, hrest⟩
        cases first with
        | nil =>
          obtain ⟨rfl, rfl⟩ := List.cons.inj hsplit
          rw [hlater] at hrest
          cases hrest
        | cons a first =>
          obtain ⟨rfl, rfl⟩ := List.cons.inj hsplit
          exact ⟨first, c, rest, rfl, hc, hrest⟩
    | none =>
      rw [Option.none_or]
      constructor
      · intro hb
        exact ⟨[], b, later, rfl, hb, hlater⟩
      · rintro ⟨first, c, rest, hsplit, hc, hrest⟩
        cases first with
        | nil =>
          obtain ⟨rfl, rfl⟩ := List.cons.inj hsplit
          exact hc
        | cons a first =>
          obtain ⟨rfl, rfl⟩ := List.cons.inj hsplit
          rw [ih.2 ⟨first, c, rest, rfl, hc, hrest⟩] at hlater
          cases hlater

theorem byteAt?_eq_some : b.byteAt? address = some byte ↔ b.hasFamily ∧
    ∃ i, address = b.address.toNat + i ∧ b.payload[i]? = some byte := by
  unfold Block.byteAt?
  constructor
  · intro h
    split at h
    · next hcase => exact ⟨hcase.1, _, by omega, h⟩
    · cases h
  · rintro ⟨hflag, i, rfl, hbyte⟩
    rw [if_pos ⟨hflag, Nat.le_add_right _ _⟩, Nat.add_sub_cancel_left]
    exact hbyte

theorem isSome_byteAt?_of_like (hb : b.Like c) (address : Nat) :
    (c.byteAt? address).isSome = (b.byteAt? address).isSome := by
  have hlength := hb.length
  simp only [Block.byteAt?, hb.hasFamily, hb.address]
  split
  · rw [Bool.eq_iff_iff, ← Option.ne_none_iff_isSome, ← Option.ne_none_iff_isSome, ne_eq, ne_eq,
      List.getElem?_eq_none_iff, List.getElem?_eq_none_iff, hlength]
  · rfl

theorem isSome_named?_of_like (hfile : List.Forall₂ Block.Like file other) (address : Nat) :
    (named? other address).isSome = (named? file address).isSome := by
  induction hfile with
  | nil => rfl
  | cons hb _ ih => simp only [named?, Option.isSome_or, ih, isSome_byteAt?_of_like hb]

/-- The image holds every byte at the address that the file names for it, and the pages that are
flashed show it there. -/
def Lands (file : List Block) (image : Image) : Prop :=
  ∀ address byte, named? file address = some byte →
    Image.lastByte image.cells address = some byte ∧
    ∀ pageSize, ∃ page ∈ image.pages pageSize,
      page.address ≤ address ∧ page.data[address - page.address]? = some byte

/-- Every block that is the last to give a byte for some address is as far from the lowest address
as its data are from the first byte. -/
def IsStretch (file : List Block) : Prop :=
  ∀ start first b later address, lowest? file = some start → file = first ++ b :: later →
    (b.byteAt? address).isSome → named? later address = none →
    b.address.toNat = start.toNat + position first b

theorem lastByte_single (start : UInt32) (output : Bytes) (address : Nat) :
    Image.lastByte (Image.cells ⟨[⟨start, output⟩]⟩) address =
      if start.toNat ≤ address then output[address - start.toNat]? else none := by
  have hcells : Image.cells ⟨[⟨start, output⟩]⟩ = Image.cellsOf (start.toNat, output) := by
    simp [Image.cells, BoardDebug.Block.cells, Image.cellsOf]
  rw [hcells, Image.lastByte_cellsOf]

/-- A byte of a block is where its position says. -/
theorem getElem?_laid (hb : b.hasFamily) {i : Nat} (hi : i < b.payload.length) :
    (laid (first ++ b :: later)).output[position first b + i]? = b.payload[i]? := by
  obtain ⟨before, rest, hlength, houtput⟩ := exists_output_laid first later hb
  rw [houtput b ⟨rfl, rfl, rfl, rfl, rfl⟩, List.append_assoc, ← hlength,
    List.getElem?_append_right (Nat.le_add_right _ _), Nat.add_sub_cancel_left,
    List.getElem?_append_left hi]

/-- A page shows the byte that an image holds. -/
theorem exists_page_of_lastByte {image : Image}
    (h : Image.lastByte image.cells address = some byte) (pageSize : Nat) :
    ∃ page ∈ image.pages pageSize,
      page.address ≤ address ∧ page.data[address - page.address]? = some byte := by
  have hshows := Image.shows_pages image pageSize
  have hpos : 0 < max pageSize 1 := Nat.le_max_right _ _
  obtain ⟨cell, hcell, haddress⟩ : ∃ cell ∈ image.cells, cell.1 = address := by
    by_contra hnone
    have hnever : ∀ cell ∈ image.cells, cell.1 ≠ address := fun cell hcell heq =>
      hnone ⟨cell, hcell, heq⟩
    rw [Image.lastByte_eq_none hnever] at h
    cases h
  obtain ⟨page, hpage, hstart⟩ := (hshows.touched _).2 ⟨cell, hcell, rfl⟩
  obtain ⟨hlow, hhigh⟩ :=
    (Image.sub_mod_eq_iff hpos (hshows.aligned page hpage) cell.1).1 hstart.symm
  rw [haddress] at hlow hhigh
  refine ⟨page, hpage, hlow, ?_⟩
  rw [hshows.bytes page hpage _ (by omega), Nat.add_sub_cancel' hlow, h]
  rfl

/-- The data of a file that is one stretch land. -/
theorem IsStretch.lands (h : IsStretch file) {start : UInt32} (hstart : lowest? file = some start) :
    Lands file ⟨[⟨start, (laid file).output⟩]⟩ := by
  intro address byte hnamed
  have hheld :
      Image.lastByte (Image.cells ⟨[⟨start, (laid file).output⟩]⟩) address = some byte := by
    obtain ⟨first, b, later, rfl, hbyte, hlater⟩ := named?_eq_some.1 hnamed
    have hplace := h start first b later address hstart rfl (by simp [hbyte]) hlater
    obtain ⟨hflag, i, rfl, hpayload⟩ := byteAt?_eq_some.1 hbyte
    have hi : i < b.payload.length := (List.getElem?_eq_some_iff.1 hpayload).1
    rw [lastByte_single, if_pos (by omega), ← hpayload, ← getElem?_laid hflag hi]
    congr 1
    omega
  exact ⟨hheld, exists_page_of_lastByte hheld⟩

theorem exists_split_of_like (hfile : List.Forall₂ Block.Like file (first ++ c :: later)) :
    ∃ first' b later', file = first' ++ b :: later' ∧ List.Forall₂ Block.Like first' first ∧
      b.Like c ∧ List.Forall₂ Block.Like later' later := by
  induction first generalizing file with
  | nil =>
    cases hfile with
    | cons hb hlater => exact ⟨[], _, _, rfl, .nil, hb, hlater⟩
  | cons a first ih =>
    cases hfile with
    | cons ha hrest =>
      obtain ⟨first', b, later', rfl, hfirst, hb, hlater⟩ := ih hrest
      exact ⟨_ :: first', b, later', rfl, .cons ha hfirst, hb, hlater⟩

/-- Whether a file is one stretch is decided by its headers. -/
theorem IsStretch.of_like (h : IsStretch file) (hfile : List.Forall₂ Block.Like file other) :
    IsStretch other := by
  rintro start first c later address hstart rfl hsome hlater
  obtain ⟨first', b, later', rfl, hfirst, hb, hrest⟩ := exists_split_of_like hfile
  rw [lowest?_of_like hfile] at hstart
  rw [isSome_byteAt?_of_like hb] at hsome
  have hnone : named? later' address = none := by
    rw [← Option.not_isSome_iff_eq_none, ← isSome_named?_of_like hrest, hlater]
    simp
  rw [position_of_like hfirst hb, hb.address]
  exact h start first' b later' address hstart rfl hsome hnone

/-- If the data land whatever they are, the file is one stretch. -/
theorem isStretch_of_lands (h : ∀ other, SameHeaders bytes other →
    ∃ image, Image.ofUf2 other = .ok image ∧ Lands (flashed other) image) :
    IsStretch (flashed bytes) := by
  intro start first b later address hstart hsplit hsome hlater
  obtain ⟨byte, hbyte⟩ := Option.isSome_iff_exists.1 hsome
  obtain ⟨hflag, i, rfl, hpayload⟩ := byteAt?_eq_some.1 hbyte
  have hi : i < b.payload.length := (List.getElem?_eq_some_iff.1 hpayload).1
  -- Another byte is put in place of this one. It is seen at the address only if it lies there.
  obtain ⟨changed, hsame, hflashed⟩ := exists_changed hsplit hi (byte + 1)
  obtain ⟨before, rest, hlength, houtput⟩ := exists_output_laid first later hflag
  have hheld : ∀ (other : Bytes) (c : Block) (value : UInt8), SameHeaders bytes other →
      b.Like c → flashed other = first ++ c :: later → c.payload[i]? = some value →
      start.toNat ≤ b.address.toNat + i ∧
        (before ++ c.payload ++ rest)[b.address.toNat + i - start.toNat]? = some value := by
    intro other c value hother hc hfile hvalue
    obtain ⟨image, himage, hlands⟩ := h other hother
    obtain ⟨-, start', hstart', -, rfl⟩ := ofUf2_eq_ok.1 himage
    rw [lowest?_of_like hother.flashed, hstart] at hstart'
    cases hstart'
    have hnamed : named? (flashed other) (b.address.toNat + i) = some value := by
      rw [hfile]
      refine named?_eq_some.2 ⟨first, c, later, rfl, ?_, hlater⟩
      exact byteAt?_eq_some.2 ⟨hc.hasFamily ▸ hflag, i, by rw [hc.address], hvalue⟩
    have hlast := (hlands _ _ hnamed).1
    rw [lastByte_single, hfile, houtput c hc] at hlast
    split at hlast
    · next hle => exact ⟨hle, hlast⟩
    · cases hlast
  obtain ⟨hle, hold⟩ := hheld bytes b byte ⟨rfl, fun _ => rfl⟩ ⟨rfl, rfl, rfl, rfl, rfl⟩ hsplit
    hpayload
  have hlike : b.Like { b with payload := b.payload.set i (byte + 1) } :=
    ⟨rfl, rfl, rfl, rfl, List.length_set ..⟩
  obtain ⟨-, hnew⟩ := hheld changed _ (byte + 1) hsame hlike hflashed (by simp [hi])
  have hset : before ++ b.payload.set i (byte + 1) ++ rest =
      (before ++ b.payload ++ rest).set (position first b + i) (byte + 1) := by
    rw [← hlength, List.append_assoc, List.append_assoc, List.set_append_right _ _ (by omega),
      Nat.add_sub_cancel_left, List.set_append_left _ _ hi]
  rw [hset, List.getElem?_set] at hnew
  split at hnew
  · omega
  · rw [hold] at hnew
    simp at hnew

/-- All blocks name a family, and each one starts where the one before it stops, or behind that if
it is of the same family. -/
structure IsSeamless (file : List Block) : Prop where
  hasFamily : ∀ b ∈ file, b.hasFamily
  seam : ∀ first b next later, file = first ++ b :: next :: later →
    b.address.toNat + b.size = next.address.toNat ∨
      next.family = b.family ∧ b.address.toNat + b.size ≤ next.address.toNat

/-- What is there after a block that names a family. -/
theorem laid_concat (first : List Block) (hb : b.hasFamily) :
    (laid (first ++ [b])).cursor = some (b.address + .ofNat b.size) ∧
      (laid (first ++ [b])).family = some b.family ∧
      (laid (first ++ [b])).output.length = position first b + b.payload.length := by
  have hlaid : laid (first ++ [b]) = (laid first).add b := by simp [laid]
  rw [hlaid]
  refine ⟨rfl, ?_, ?_⟩
  · simp only [State.add]
    split
    · rfl
    · next hsame =>
      simp only [State.startsAnew, hb, Bool.true_and, Bool.or_eq_true, bne_iff_ne, ne_eq,
        not_or, not_not] at hsame
      exact hsame.2
  · simp [State.add, hb, position, Nat.add_assoc]

theorem IsSeamless.address_eq (h : IsSeamless file)
    (hlength : ∀ b ∈ file, b.payload.length = b.size) {head : Block}
    (hhead : file.head? = some head)
    (hsplit : file = first ++ b :: later) :
    b.address.toNat = head.address.toNat + position first b := by
  induction first using List.reverseRecOn generalizing b later with
  | nil =>
    subst hsplit
    cases hhead
    simp [position, laid, State.initial, State.gap, State.startsAnew]
  | append_singleton first before ih =>
    rw [List.append_assoc, List.singleton_append] at hsplit
    have hplace := ih hsplit
    have hmem : before ∈ file := by simp [hsplit]
    have hnext : b ∈ file := by simp [hsplit]
    obtain ⟨hcursor, hfamily, hput⟩ := laid_concat first (h.hasFamily before hmem)
    rw [hlength before hmem] at hput
    have hlt := b.address.toNat_lt
    have hgap : before.address.toNat + before.size + (laid (first ++ [before])).gap b =
        b.address.toNat := by
      have hanew : (laid (first ++ [before])).startsAnew b =
          (some before.family != some b.family) := by
        simp [State.startsAnew, State.familyFor, hcursor, hfamily, h.hasFamily b hnext]
      simp only [State.gap, hanew, hcursor, Option.getD_some]
      obtain hseam | ⟨hsame, hbehind⟩ := h.seam first before b later hsplit
      · have hcontiguous : before.address + .ofNat before.size = b.address := by
          apply UInt32.toNat_inj.1
          rw [UInt32.toNat_add, UInt32.toNat_ofNat', Nat.add_mod_mod, hseam]
          exact Nat.mod_eq_of_lt hlt
        rw [hcontiguous, ite_self, UInt32.sub_self]
        exact hseam
      · have hstop : (before.address + .ofNat before.size).toNat =
            before.address.toNat + before.size := by
          rw [UInt32.toNat_add, UInt32.toNat_ofNat', Nat.add_mod_mod]
          exact Nat.mod_eq_of_lt (by omega)
        have hle : before.address + .ofNat before.size ≤ b.address := by
          rw [UInt32.le_iff_toNat_le, hstop]
          exact hbehind
        rw [hsame, bne_self_eq_false, if_neg Bool.false_ne_true, UInt32.toNat_sub_of_le _ _ hle,
          hstop]
        omega
    rw [position, hput]
    omega

/-- A file without seams is one stretch. -/
theorem IsSeamless.isStretch (h : IsSeamless file)
    (hlength : ∀ b ∈ file, b.payload.length = b.size) : IsStretch file := by
  rintro start first b later address hstart hsplit - -
  obtain ⟨head, hhead⟩ : ∃ head, file.head? = some head := by
    cases file with
    | nil => simp at hsplit
    | cons head rest => exact ⟨head, rfl⟩
  have hmem : head ∈ file := List.mem_of_head? hhead
  obtain ⟨⟨least, hleast, -, rfl⟩, hlowest⟩ := lowest?_eq_some.1 hstart
  have hle := UInt32.le_iff_toNat_le.1 (hlowest head hmem (h.hasFamily head hmem))
  obtain ⟨before, after, hleastSplit⟩ := List.append_of_mem hleast
  have habove := h.address_eq hlength hhead hleastSplit
  rw [h.address_eq hlength hhead hsplit]
  omega

/-- The data of a loaded file land where the file says, whatever they are, exactly if the headers
make one stretch of the file. They do if all blocks name a family and each one starts where the one
before it stops, or further on if it is of the same family. -/
theorem lands_iff {image : Image} (h : Image.ofUf2 bytes = .ok image) :
    ((∀ other, SameHeaders bytes other →
        ∃ image, Image.ofUf2 other = .ok image ∧ Lands (flashed other) image) ↔
      IsStretch (flashed bytes)) ∧
    (IsSeamless (flashed bytes) → Lands (flashed bytes) image) := by
  obtain ⟨haccepts, start, hstart, hfits, rfl⟩ := ofUf2_eq_ok.1 h
  refine ⟨⟨isStretch_of_lands, fun hstretch other hother => ?_⟩, fun hseamless => ?_⟩
  · have hlike := hother.flashed
    have hlaid := like_laid hlike
    have hstart' : lowest? (flashed other) = some start := (lowest?_of_like hlike).trans hstart
    refine ⟨_, ofUf2_eq_ok.2 ⟨State.Like.acceptsAll ⟨rfl, rfl, rfl, rfl⟩ hlike haccepts, start,
      hstart', ?_, rfl⟩, (hstretch.of_like hlike).lands hstart'⟩
    rw [hlaid.length]
    exact hfits
  · have hsizes : ∀ (file : List Block) (s : State), s.AcceptsAll file →
        ∀ b ∈ file, b.size ≤ 476 := by
      intro file
      induction file with
      | nil => simp
      | cons first later ih =>
        rintro s ⟨hfirst, hlater⟩ b hb
        obtain rfl | hb := List.mem_cons.1 hb
        · exact hfirst.size
        · exact ih _ hlater b hb
    refine (hseamless.isStretch fun b hb => ?_).lands hstart
    exact length_payload hb (hsizes _ _ haccepts b hb)

/-- The bytes of a block that names a family. -/
def Block.sample (family address : UInt32) (payload : Bytes) : Bytes :=
  wordBytes [0x0a324655, 0x9e5d5157, 0x2000, address, .ofNat payload.length, 0, 1, family] ++
    payload ++ List.replicate (480 - payload.length) 0

deriving instance DecidableEq for Block

/-- The data of two families land if the second goes on where the first stops. -/
theorem lands_seamless :
    let bytes :=
      Block.sample 1 0x2000 [0xaa, 0xbb, 0xcc, 0xdd] ++ Block.sample 2 0x2004 [0x11, 0x22]
    ∃ image, Image.ofUf2 bytes = .ok image ∧ IsSeamless (flashed bytes) ∧
      Lands (flashed bytes) image := by
  intro bytes
  have hflashed : flashed bytes =
      [⟨0x2000, 4, true, 1, [0xaa, 0xbb, 0xcc, 0xdd]⟩, ⟨0x2004, 2, true, 2, [0x11, 0x22]⟩] := by
    decide +kernel
  have himage : Image.ofUf2 bytes = .ok ⟨[⟨0x2000, [0xaa, 0xbb, 0xcc, 0xdd, 0x11, 0x22]⟩]⟩ := by
    decide +kernel
  have hseamless : IsSeamless (flashed bytes) := by
    rw [hflashed]
    refine ⟨by decide, ?_⟩
    rintro (_ | ⟨first, _ | ⟨second, rest⟩⟩) b next later hsplit
    · cases hsplit
      exact .inl rfl
    · simp at hsplit
    · simp at hsplit
  exact ⟨_, himage, hseamless, (lands_iff himage).2 hseamless⟩

/-- Of two families, the second at the lower address, not even the first one lands: its data are at
the address of the second, and where they belong there is nothing. -/
theorem families_misplaced :
    let bytes :=
      Block.sample 1 0x2000 [0xaa, 0xbb, 0xcc, 0xdd] ++ Block.sample 2 0x1000 [0x11, 0x22]
    ((flashed bytes).map (·.family)).Nodup ∧ ∃ image, Image.ofUf2 bytes = .ok image ∧
      named? (flashed bytes) 0x2000 = some 0xaa ∧ Image.lastByte image.cells 0x2000 = none ∧
      named? (flashed bytes) 0x1000 = some 0x11 ∧
      Image.lastByte image.cells 0x1000 = some 0xaa ∧ ¬Lands (flashed bytes) image := by
  intro bytes
  have himage : Image.ofUf2 bytes = .ok ⟨[⟨0x1000, [0xaa, 0xbb, 0xcc, 0xdd, 0x11, 0x22]⟩]⟩ := by
    decide +kernel
  have hnamed : named? (flashed bytes) 0x2000 = some 0xaa := by decide +kernel
  have hnothing : Image.lastByte (Image.cells
      ⟨[⟨0x1000, [0xaa, 0xbb, 0xcc, 0xdd, 0x11, 0x22]⟩]⟩) 0x2000 = none := by
    decide +kernel
  refine ⟨by decide +kernel, _, himage, hnamed, hnothing, by decide +kernel, by decide +kernel, ?_⟩
  intro hlands
  have hheld := (hlands _ _ hnamed).1
  rw [hnothing] at hheld
  cases hheld

end BoardDebug.Uf2
