import BoardDebug.Image.Load

namespace BoardDebug.Image

variable {pageSize : Nat} {cell : Nat × UInt8} {pages : List Page} {page : Page}

/-- Pages in the order of their addresses, no two of them at one address. -/
def Increasing (pages : List Page) : Prop :=
  pages.Pairwise fun a b => a.address < b.address

/-- A byte is written into the page that starts below it, and moves no other page. -/
theorem address_of_mem_writeCell (h : page ∈ writeCell pageSize cell pages) :
    page.address = cell.1 - cell.1 % pageSize ∨
      ∃ earlier ∈ pages, page.address = earlier.address := by
  induction pages with
  | nil =>
    obtain rfl := List.mem_singleton.1 h
    exact .inl rfl
  | cons first rest ih =>
    unfold writeCell at h
    dsimp only at h
    split at h
    case isTrue hlt =>
      obtain rfl | hmem := List.mem_cons.1 h
      · exact .inl rfl
      · exact .inr ⟨page, hmem, rfl⟩
    case isFalse hlt =>
      split at h
      case isTrue heq =>
        obtain rfl | hmem := List.mem_cons.1 h
        · exact .inr ⟨first, List.mem_cons_self, rfl⟩
        · exact .inr ⟨page, List.mem_cons_of_mem _ hmem, rfl⟩
      case isFalse hne =>
        obtain rfl | hmem := List.mem_cons.1 h
        · exact .inr ⟨page, List.mem_cons_self, rfl⟩
        · obtain haddress | ⟨earlier, hearlier, haddress⟩ := ih hmem
          · exact .inl haddress
          · exact .inr ⟨earlier, List.mem_cons_of_mem _ hearlier, haddress⟩

theorem increasing_writeCell (h : Increasing pages) :
    Increasing (writeCell pageSize cell pages) := by
  induction pages with
  | nil => exact List.pairwise_singleton _ _
  | cons first rest ih =>
    obtain ⟨hfirst, hrest⟩ := List.pairwise_cons.1 h
    unfold writeCell
    dsimp only
    split
    case isTrue hlt =>
      refine List.pairwise_cons.2 ⟨fun later hlater => ?_, h⟩
      obtain rfl | hlater := List.mem_cons.1 hlater
      · exact hlt
      · exact Nat.lt_trans hlt (hfirst later hlater)
    case isFalse hlt =>
      split
      case isTrue heq => exact List.pairwise_cons.2 ⟨hfirst, hrest⟩
      case isFalse hne =>
        refine List.pairwise_cons.2 ⟨fun later hlater => ?_, ih hrest⟩
        obtain haddress | ⟨earlier, hearlier, haddress⟩ := address_of_mem_writeCell hlater
        · omega
        · rw [haddress]
          exact hfirst earlier hearlier

/-- What holds of no pages and is kept when a byte is written holds of the pages of an image. -/
theorem pages_induction {image : Image} {motive : List Page → Prop} (hnil : motive [])
    (hwrite : ∀ cell ∈ image.cells, ∀ pages, motive pages →
      motive (writeCell (max pageSize 1) cell pages)) : motive (image.pages pageSize) := by
  have hfold : ∀ cells : List (Nat × UInt8), (∀ cell ∈ cells, cell ∈ image.cells) →
      ∀ pages, motive pages →
        motive (cells.foldl (fun pages cell => writeCell (max pageSize 1) cell pages) pages) := by
    intro cells hcells
    induction cells with
    | nil => exact fun _ h => h
    | cons cell cells ih =>
      obtain ⟨hcell, hcells⟩ := List.forall_mem_cons.1 hcells
      exact fun pages h => ih hcells _ (hwrite cell hcell pages h)
  exact hfold image.cells (fun _ h => h) [] hnil

theorem increasing_pages (image : Image) (pageSize : Nat) : Increasing (image.pages pageSize) :=
  pages_induction .nil fun _ _ _ h => increasing_writeCell h

/-- The bytes of an image lie in its blocks. -/
theorem exists_block_of_mem_cells {image : Image} (h : cell ∈ image.cells) :
    ∃ block ∈ image.blocks, cell.1 < block.stop := by
  obtain ⟨block, hblock, hcell⟩ := List.mem_flatMap.1 h
  obtain ⟨⟨byte, offset⟩, hoffset, rfl⟩ := List.mem_map.1 hcell
  have hlt := List.snd_lt_of_mem_zipIdx hoffset
  refine ⟨block, hblock, ?_⟩
  unfold Block.stop
  dsimp only at hlt ⊢
  omega

/-- No page of an image starts past the last byte of the blocks. -/
theorem exists_block_of_mem_pages {image : Image} (h : page ∈ image.pages pageSize) :
    ∃ block ∈ image.blocks, page.address < block.stop := by
  let starts (page : Page) : Prop := ∃ block ∈ image.blocks, page.address < block.stop
  have hall : ∀ page ∈ image.pages pageSize, starts page := by
    refine pages_induction (motive := fun pages => ∀ page ∈ pages, starts page) (by simp) ?_
    intro cell hcell pages ih page hpage
    obtain haddress | ⟨earlier, hearlier, haddress⟩ := address_of_mem_writeCell hpage
    · obtain ⟨block, hblock, hlt⟩ := exists_block_of_mem_cells hcell
      exact ⟨block, hblock, by omega⟩
    · obtain ⟨block, hblock, hlt⟩ := ih earlier hearlier
      exact ⟨block, hblock, haddress ▸ hlt⟩
  exact hall page h

/-- All bytes of an image have 32-bit addresses. -/
def Fits (image : Image) : Prop :=
  ∀ block ∈ image.blocks, block.stop ≤ UInt32.size

theorem fits_empty : Fits empty :=
  List.forall_mem_nil _

theorem stop_ofNat_le (address : Nat) (data : Bytes) :
    Block.stop ⟨.ofNat address, data⟩ ≤ address + data.length :=
  Nat.add_le_add_right (Nat.mod_le _ _) _

theorem stop_le_of_mem_append {address bound : Nat} {data : Bytes} {blocks : List Block}
    {block : Block} (hblocks : ∀ block ∈ blocks, block.stop ≤ bound)
    (hdata : address + data.length ≤ bound) (h : block ∈ append address data blocks) :
    block.stop ≤ bound := by
  have hnew := Nat.le_trans (stop_ofNat_le address data) hdata
  fun_induction append address data blocks with
  | case1 =>
    rw [List.mem_singleton.1 h]
    exact hnew
  | case2 last hjoins =>
    rw [List.mem_singleton.1 h]
    simpa [Block.stop, ← hjoins, Nat.add_assoc] using hdata
  | case3 last hgap =>
    obtain rfl | hmem := List.mem_cons.1 h
    · exact hblocks _ List.mem_cons_self
    · rw [List.mem_singleton.1 hmem]
      exact hnew
  | case4 first rest _ ih =>
    obtain rfl | hmem := List.mem_cons.1 h
    · exact hblocks _ List.mem_cons_self
    · exact ih (fun block hblock => hblocks block (List.mem_cons_of_mem _ hblock)) hmem

theorem Fits.add? {image larger : Image} {address : Nat} {data : Bytes} (h : image.Fits)
    (hadd : image.add? address data = some larger) : larger.Fits := by
  unfold Image.add? at hadd
  split at hadd
  case isTrue hdata =>
    cases hadd
    exact fun block hblock => stop_le_of_mem_append h hdata hblock
  case isFalse => cases hadd

theorem fits_of_add {address : Nat} {data : Bytes} {image : Image}
    (h : empty.add address data = .ok image) : image.Fits := by
  unfold Image.add at h
  split at h
  case h_1 larger hadd =>
    cases h
    exact fits_empty.add? hadd
  case h_2 => cases h

/-- The records of an Intel HEX file only ever add bytes that fit. -/
theorem Fits.intelHex {base : Nat} {image loaded : Image} {lines : List (List Char)}
    (h : image.Fits) (hload : IntelHex.load base image lines = .loaded loaded) : loaded.Fits := by
  fun_induction IntelHex.load base image lines with
  | case1 | case6 =>
    cases hload
    exact h
  | case3 | case5 => cases hload
  | case4 _ _ _ _ _ _ _ _ _ hadd ih => exact ih (h.add? hadd) hload
  | case2 _ _ _ _ _ ih | case7 _ _ _ _ _ _ _ ih | case8 _ _ _ _ _ _ _ ih
  | case9 _ _ _ _ _ _ ih | case10 _ _ _ _ _ _ ih => exact ih h hload

/-- What is loaded from a file fits, whatever the file is. -/
theorem fits_of_load {files : Files} {path : String} {format : Option ImageFormat} {base : UInt32}
    {image : Image} (h : load files path format base = .ok image) : image.Fits := by
  unfold load at h
  split at h
  case h_1 => cases h
  case h_2 bytes _ =>
    generalize (format <|> ImageFormat.ofPath? path).getD .uf2 = chosen at h
    cases chosen with
    | raw => exact fits_of_add h
    | intelHex =>
      simp only [decode, ofIntelHex] at h
      split at h
      case h_1 loaded hload =>
        split at h
        case isTrue => cases h
        case isFalse =>
          cases h
          exact fits_empty.intelHex hload
      case h_2 => cases h
      case h_3 => cases h
    | uf2 =>
      simp only [decode, ofUf2] at h
      split at h
      case h_1 => cases h
      case h_2 =>
        split at h
        case h_1 => cases h
        case h_2 => exact fits_of_add h

/-- The pages of an image that fits stay in order when their addresses are sent as words. -/
theorem increasing_words {image : Image} (h : image.Fits) (pageSize : Nat) :
    (image.pages pageSize).Pairwise fun page next =>
      UInt32.ofNat page.address < UInt32.ofNat next.address := by
  have hword : ∀ page ∈ image.pages pageSize, (UInt32.ofNat page.address).toNat = page.address := by
    intro page hpage
    obtain ⟨block, hblock, hlt⟩ := exists_block_of_mem_pages hpage
    exact UInt32.toNat_ofNat_of_lt' (Nat.lt_of_lt_of_le hlt (h block hblock))
  refine (increasing_pages image pageSize).imp_of_mem fun hpage hnext hlt => ?_
  rw [UInt32.lt_iff_toNat_lt, hword _ hpage, hword _ hnext]
  exact hlt

/-- The page that starts at an address, erased if there is none yet. -/
def pageAt (pageSize start : Nat) (pages : List Page) : Page :=
  (pages.find? (·.address = start)).getD (erasedPage pageSize start)

/-- A byte is written into its page, and the other pages stay. -/
theorem mem_writeCell (h : Increasing pages) :
    page ∈ writeCell pageSize cell pages ↔
      page = writeCell.write pageSize cell (pageAt pageSize (cell.1 - cell.1 % pageSize) pages) ∨
        page ∈ pages ∧ page.address ≠ cell.1 - cell.1 % pageSize := by
  induction pages with
  | nil => simp [writeCell, pageAt]
  | cons first rest ih =>
    obtain ⟨hfirst, hrest⟩ := List.pairwise_cons.1 h
    unfold writeCell
    dsimp only
    generalize cell.1 - cell.1 % pageSize = start at ih ⊢
    split
    case isTrue hlt =>
      have hne : ∀ page ∈ first :: rest, page.address ≠ start := by
        intro page hpage
        obtain rfl | hpage := List.mem_cons.1 hpage
        · omega
        · have := hfirst page hpage
          omega
      have hat : pageAt pageSize start (first :: rest) = erasedPage pageSize start := by
        rw [pageAt, List.find?_eq_none.2 (by simpa using hne)]
        rfl
      rw [hat, List.mem_cons, and_iff_left_of_imp (hne page)]
    case isFalse hlt =>
      split
      case isTrue heq =>
        have hat : pageAt pageSize start (first :: rest) = first := by simp [pageAt, heq]
        have hne : page ∈ rest → page.address ≠ start := by
          intro hpage
          have := hfirst page hpage
          omega
        rw [hat, List.mem_cons, List.mem_cons]
        constructor
        · rintro (hpage | hpage)
          · exact .inl hpage
          · exact .inr ⟨.inr hpage, hne hpage⟩
        · rintro (hpage | ⟨rfl | hpage, haddress⟩)
          · exact .inl hpage
          · exact absurd heq.symm haddress
          · exact .inr hpage
      case isFalse hne =>
        have hat : pageAt pageSize start (first :: rest) = pageAt pageSize start rest := by
          simp [pageAt, Ne.symm hne]
        rw [hat, List.mem_cons, List.mem_cons, ih hrest]
        constructor
        · rintro (rfl | hpage | ⟨hpage, haddress⟩)
          · exact .inr ⟨.inl rfl, Ne.symm hne⟩
          · exact .inl hpage
          · exact .inr ⟨.inr hpage, haddress⟩
        · rintro (hpage | ⟨rfl | hpage, haddress⟩)
          · exact .inr (.inl hpage)
          · exact .inl rfl
          · exact .inr (.inr ⟨hpage, haddress⟩)

/-- The byte that was last given for an address. -/
def lastByte (cells : List (Nat × UInt8)) (address : Nat) : Option UInt8 :=
  (cells.reverse.find? (·.1 = address)).map (·.2)

theorem lastByte_append (cells later : List (Nat × UInt8)) (address : Nat) :
    lastByte (cells ++ later) address = (lastByte later address).or (lastByte cells address) := by
  rw [lastByte, List.reverse_append, List.find?_append, Option.map_or]
  rfl

theorem lastByte_concat (cells : List (Nat × UInt8)) (cell : Nat × UInt8) (address : Nat) :
    lastByte (cells ++ [cell]) address =
      if cell.1 = address then some cell.2 else lastByte cells address := by
  rw [lastByte_append]
  by_cases h : cell.1 = address <;> simp [lastByte, h]

/-- Pages with exactly the bytes of some cells, each of which overrides those before it. -/
structure Shows (pageSize : Nat) (cells : List (Nat × UInt8)) (pages : List Page) : Prop where
  increasing : Increasing pages
  aligned : ∀ page ∈ pages, pageSize ∣ page.address
  touched : ∀ start, (∃ page ∈ pages, page.address = start) ↔
    ∃ cell ∈ cells, cell.1 - cell.1 % pageSize = start
  size : ∀ page ∈ pages, page.data.length = pageSize
  bytes : ∀ page ∈ pages, ∀ offset < pageSize,
    page.data[offset]? = some ((lastByte cells (page.address + offset)).getD 0xff)

theorem shows_nil (pageSize : Nat) : Shows pageSize [] [] where
  increasing := .nil
  aligned := by simp
  touched := by simp
  size := by simp
  bytes := by simp

/-- The page of an address is the one in which it lies. -/
theorem sub_mod_eq_iff {start : Nat} (hpos : 0 < pageSize) (h : pageSize ∣ start) (address : Nat) :
    address - address % pageSize = start ↔ start ≤ address ∧ address < start + pageSize := by
  have hmod := Nat.mod_lt address hpos
  have hle := Nat.mod_le address pageSize
  constructor
  · omega
  · rintro ⟨hlow, hhigh⟩
    obtain ⟨offset, rfl⟩ := Nat.exists_eq_add_of_le hlow
    obtain ⟨k, rfl⟩ := h
    rw [Nat.mul_add_mod, Nat.mod_eq_of_lt (Nat.lt_of_add_lt_add_left hhigh)]
    omega

theorem lastByte_eq_none {cells : List (Nat × UInt8)} {address : Nat}
    (h : ∀ cell ∈ cells, cell.1 ≠ address) : lastByte cells address = none := by
  rw [lastByte, List.find?_eq_none.2 (by simpa using h)]
  rfl

variable {cells : List (Nat × UInt8)}

/-- The page into which a byte is written, before that. -/
theorem Shows.pageAt (h : Shows pageSize cells pages) (hpos : 0 < pageSize) {start : Nat}
    (hstart : pageSize ∣ start) :
    (pageAt pageSize start pages).address = start ∧
      (pageAt pageSize start pages).data.length = pageSize ∧
      ∀ offset < pageSize, (pageAt pageSize start pages).data[offset]? =
        some ((lastByte cells (start + offset)).getD 0xff) := by
  unfold Image.pageAt
  cases hfind : pages.find? (·.address = start) with
  | some page =>
    have hpage := List.mem_of_find?_eq_some hfind
    have haddress : page.address = start := by simpa using List.find?_some hfind
    exact ⟨haddress, h.size page hpage, haddress ▸ h.bytes page hpage⟩
  | none =>
    refine ⟨rfl, List.length_replicate, fun offset hoffset => ?_⟩
    -- A byte in an erased page would have made it a page.
    have hnone : lastByte cells (start + offset) = none := by
      refine lastByte_eq_none fun cell hcell haddress => ?_
      have hcellStart := (sub_mod_eq_iff hpos hstart cell.1).2 (by omega)
      obtain ⟨page, hpage, hpageStart⟩ := (h.touched start).2 ⟨cell, hcell, hcellStart⟩
      simpa [hpageStart] using List.find?_eq_none.1 hfind page hpage
    rw [hnone]
    exact List.getElem?_replicate_of_lt hoffset

/-- There is a page for every cell, also for the new one. -/
theorem Shows.touched_writeCell (h : Shows pageSize cells pages) (hpos : 0 < pageSize)
    (cell : Nat × UInt8) (start : Nat) :
    (∃ page ∈ writeCell pageSize cell pages, page.address = start) ↔
      ∃ any ∈ cells ++ [cell], any.1 - any.1 % pageSize = start := by
  have hmem (page : Page) : page ∈ writeCell pageSize cell pages ↔ _ ∨ _ :=
    mem_writeCell h.increasing
  obtain ⟨haddress, -⟩ := h.pageAt hpos (Nat.dvd_sub_mod cell.1)
  constructor
  · rintro ⟨page, hpage, rfl⟩
    obtain rfl | ⟨hold, -⟩ := (hmem page).1 hpage
    · exact ⟨cell, List.mem_concat_self, haddress.symm⟩
    · obtain ⟨earlier, hearlier, heq⟩ := (h.touched page.address).1 ⟨page, hold, rfl⟩
      exact ⟨earlier, List.mem_append_left _ hearlier, heq⟩
  · rintro ⟨any, hany, rfl⟩
    by_cases hsame : any.1 - any.1 % pageSize = cell.1 - cell.1 % pageSize
    · exact ⟨_, (hmem _).2 (.inl rfl), haddress.trans hsame.symm⟩
    · obtain hany | hany := List.mem_append.1 hany
      · obtain ⟨page, hpage, heq⟩ := (h.touched _).2 ⟨any, hany, rfl⟩
        exact ⟨page, (hmem page).2 (.inr ⟨hpage, heq ▸ hsame⟩), heq⟩
      · rw [List.mem_singleton.1 hany] at hsame
        exact absurd rfl hsame

/-- The page of the new cell shows its byte, and nothing else changes. -/
theorem Shows.bytes_writeCell (h : Shows pageSize cells pages) (hpos : 0 < pageSize)
    (cell : Nat × UInt8) (hpage : page ∈ writeCell pageSize cell pages) {offset : Nat}
    (hlt : offset < pageSize) :
    page.data[offset]? =
      some ((lastByte (cells ++ [cell]) (page.address + offset)).getD 0xff) := by
  have hstart : pageSize ∣ cell.1 - cell.1 % pageSize := Nat.dvd_sub_mod cell.1
  have hcell : cell.1 - cell.1 % pageSize + cell.1 % pageSize = cell.1 :=
    Nat.sub_add_cancel (Nat.mod_le _ _)
  obtain ⟨haddress, hsize, hbytes⟩ := h.pageAt hpos hstart
  rw [lastByte_concat]
  obtain rfl | ⟨hold, hne⟩ := (mem_writeCell h.increasing).1 hpage
  · generalize Image.pageAt pageSize (cell.1 - cell.1 % pageSize) pages = target at *
    change (target.data.set (cell.1 % pageSize) cell.2)[offset]? = some ((if cell.1 =
      target.address + offset then _ else lastByte cells (target.address + offset)).getD _)
    rw [haddress, List.getElem?_set, hsize]
    -- Only the byte at the offset of the cell has the address of the cell.
    by_cases hoffset : cell.1 % pageSize = offset
    · rw [if_pos hoffset, if_pos (hoffset ▸ hlt), if_pos (by omega)]
      rfl
    · rw [if_neg hoffset, if_neg (by omega)]
      exact hbytes offset hlt
  · -- The cell lies in its own page, so in no other one.
    have hother : cell.1 ≠ page.address + offset := by
      intro heq
      have hlies := (sub_mod_eq_iff hpos (h.aligned page hold) cell.1).2 (by omega)
      exact hne hlies.symm
    rw [if_neg hother]
    exact h.bytes page hold offset hlt

theorem Shows.writeCell (h : Shows pageSize cells pages) (hpos : 0 < pageSize)
    (cell : Nat × UInt8) :
    Shows pageSize (cells ++ [cell]) (writeCell pageSize cell pages) := by
  have hstart : pageSize ∣ cell.1 - cell.1 % pageSize := Nat.dvd_sub_mod cell.1
  obtain ⟨haddress, hsize, -⟩ := h.pageAt hpos hstart
  refine ⟨increasing_writeCell h.increasing, fun page hpage => ?_, h.touched_writeCell hpos cell,
    fun page hpage => ?_, fun page hpage offset => h.bytes_writeCell hpos cell hpage⟩
  · obtain rfl | ⟨hold, -⟩ := (mem_writeCell h.increasing).1 hpage
    · rw [← haddress] at hstart
      exact hstart
    · exact h.aligned page hold
  · obtain rfl | ⟨hold, -⟩ := (mem_writeCell h.increasing).1 hpage
    · exact (List.length_set ..).trans hsize
    · exact h.size page hold

theorem Shows.foldl (h : Shows pageSize cells pages) (hpos : 0 < pageSize)
    (later : List (Nat × UInt8)) :
    Shows pageSize (cells ++ later)
      (later.foldl (fun pages cell => Image.writeCell pageSize cell pages) pages) := by
  induction later generalizing cells pages with
  | nil => rwa [List.append_nil]
  | cons cell later ih =>
    rw [List.append_cons]
    exact ih (h.writeCell hpos cell)

theorem shows_pages (image : Image) (pageSize : Nat) :
    Shows (max pageSize 1) image.cells (image.pages pageSize) :=
  (shows_nil _).foldl (Nat.le_max_right _ _) image.cells

/-- There are exactly the aligned pages in which a cell lies. -/
theorem Shows.exists_page_iff (h : Shows pageSize cells pages) (hpos : 0 < pageSize)
    (start : Nat) :
    (∃ page ∈ pages, page.address = start) ↔ pageSize ∣ start ∧
      ∃ cell ∈ cells, start ≤ cell.1 ∧ cell.1 < start + pageSize := by
  constructor
  · rintro ⟨page, hpage, rfl⟩
    obtain ⟨cell, hcell, hstart⟩ := (h.touched page.address).1 ⟨page, hpage, rfl⟩
    have haligned := h.aligned page hpage
    exact ⟨haligned, cell, hcell, (sub_mod_eq_iff hpos haligned cell.1).1 hstart⟩
  · rintro ⟨haligned, cell, hcell, hlies⟩
    exact (h.touched start).2 ⟨cell, hcell, (sub_mod_eq_iff hpos haligned cell.1).2 hlies⟩

theorem Shows.data_eq (h : Shows pageSize cells pages) (hpage : page ∈ pages) :
    page.data = (List.range pageSize).map fun offset =>
      (lastByte cells (page.address + offset)).getD 0xff := by
  refine List.ext_getElem? fun offset => ?_
  by_cases hoffset : offset < pageSize
  · rw [h.bytes page hpage offset hoffset]
    simp [hoffset]
  · rw [List.getElem?_eq_none (by rw [h.size page hpage]; omega),
      List.getElem?_eq_none (by simpa using hoffset)]

/-- A page does not start behind its bytes. -/
theorem Shows.address_lt (h : Shows pageSize cells pages) (hpage : page ∈ pages) {bound : Nat}
    (hcells : ∀ cell ∈ cells, cell.1 < bound) : page.address < bound := by
  obtain ⟨cell, hcell, hstart⟩ := (h.touched page.address).1 ⟨page, hpage, rfl⟩
  rw [← hstart]
  exact Nat.lt_of_le_of_lt (Nat.sub_le _ _) (hcells cell hcell)

/-- The bytes that a call adds, each with its address. -/
def cellsOf (call : Nat × Bytes) : List (Nat × UInt8) :=
  call.2.zipIdx.map fun (byte, offset) => (call.1 + offset, byte)

/-- A call adds no bytes past the last address. -/
def IsLegal (call : Nat × Bytes) : Prop :=
  call.1 + call.2.length ≤ UInt32.size

instance : DecidablePred IsLegal := fun _ => inferInstanceAs (Decidable (_ ≤ _))

/-- An image after a call, which changes nothing if it fails. -/
def after (image : Image) (call : Nat × Bytes) : Image :=
  (image.add call.1 call.2).toOption.getD image

/-- The image that calls make up. -/
def afterAll (calls : List (Nat × Bytes)) : Image :=
  calls.foldl after empty

/-- What the last call that gave a byte for an address gave there. -/
def lastWritten (calls : List (Nat × Bytes)) (address : Nat) : Option UInt8 :=
  calls.reverse.findSome? fun call =>
    if call.1 ≤ address then call.2[address - call.1]? else none

theorem cells_ofNat {address : Nat} {data : Bytes} (h : IsLegal (address, data)) :
    Block.cells ⟨.ofNat address, data⟩ = cellsOf (address, data) := by
  cases data with
  | nil => rfl
  | cons byte data =>
    have hlt : address < UInt32.size := by
      unfold IsLegal at h
      rw [List.length_cons] at h
      omega
    simp only [Block.cells, cellsOf, UInt32.toNat_ofNat_of_lt' hlt]

/-- Bytes that join a block are behind its own. -/
theorem cells_join {block : Block} {data : Bytes} {address : Nat} (h : block.stop = address) :
    Block.cells ⟨block.address, block.data ++ data⟩ = block.cells ++ cellsOf (address, data) := by
  subst h
  simp only [Block.cells, cellsOf, Block.stop, List.zipIdx_append, List.map_append, Nat.zero_add]
  rw [List.zipIdx_eq_map_add (i := block.data.length)]
  simp [Nat.add_assoc, Nat.add_comm]

theorem cells_append {address : Nat} {data : Bytes} (h : IsLegal (address, data))
    (blocks : List Block) :
    (append address data blocks).flatMap Block.cells =
      blocks.flatMap Block.cells ++ cellsOf (address, data) := by
  fun_induction append address data blocks with
  | case1 => simp [cells_ofNat h]
  | case2 last hjoins => simp [cells_join hjoins]
  | case3 last hgap => simp [cells_ofNat h]
  | case4 first rest _ ih => simp [ih]

theorem add_of_legal (image : Image) {call : Nat × Bytes} (h : IsLegal call) :
    image.add call.1 call.2 = .ok (image.after call) ∧
      (image.after call).cells = image.cells ++ cellsOf call := by
  have hadd : image.add call.1 call.2 = .ok ⟨append call.1 call.2 image.blocks⟩ := by
    simp only [add, add?, if_pos (show call.1 + call.2.length ≤ 0x100000000 from h)]
  rw [after, hadd]
  exact ⟨rfl, cells_append h image.blocks⟩

theorem add_of_not_legal (image : Image) {call : Nat × Bytes} (h : ¬IsLegal call) :
    image.add call.1 call.2 = .error (.overflow call.1) ∧ image.after call = image := by
  have hadd : image.add call.1 call.2 = .error (.overflow call.1) := by
    simp only [add, add?, if_neg (show ¬call.1 + call.2.length ≤ 0x100000000 from h)]
  rw [after, hadd]
  exact ⟨rfl, rfl⟩

theorem afterAll_concat (calls : List (Nat × Bytes)) (call : Nat × Bytes) :
    afterAll (calls ++ [call]) = (afterAll calls).after call := by
  simp [afterAll]

/-- An image holds what the calls gave that did not fail. -/
theorem cells_foldl_after (calls : List (Nat × Bytes)) (image : Image) :
    (calls.foldl after image).cells = image.cells ++ (calls.filter IsLegal).flatMap cellsOf := by
  induction calls generalizing image with
  | nil => simp
  | cons call calls ih =>
    rw [List.foldl_cons, ih]
    by_cases h : IsLegal call
    · rw [(image.add_of_legal h).2, List.filter_cons_of_pos (by simpa using h), List.flatMap_cons,
        List.append_assoc]
    · rw [(image.add_of_not_legal h).2, List.filter_cons_of_neg (by simpa using h)]

theorem cellsOf_cons (start : Nat) (byte : UInt8) (data : Bytes) :
    cellsOf (start, byte :: data) = (start, byte) :: cellsOf (start + 1, data) := by
  simp only [cellsOf, List.zipIdx_cons, List.map_cons, Nat.add_zero, Nat.zero_add]
  rw [List.zipIdx_eq_map_add (i := 1), List.map_map]
  refine congrArg (_ :: ·) (List.map_congr_left fun cell _ => ?_)
  simp only [Function.comp_apply, Prod.mk.injEq, and_true]
  omega

/-- A call gives no more than one byte for an address. -/
theorem lastByte_cellsOf (start : Nat) (data : Bytes) (address : Nat) :
    lastByte (cellsOf (start, data)) address =
      if start ≤ address then data[address - start]? else none := by
  induction data generalizing start with
  | nil => simp [cellsOf, lastByte]
  | cons byte data ih =>
    rw [cellsOf_cons, ← List.singleton_append, lastByte_append, ih]
    obtain hlt | rfl | hlt := Nat.lt_trichotomy address start
    · rw [if_neg (by omega), if_neg (by omega)]
      exact lastByte_eq_none (by simp; omega)
    · rw [if_neg (by omega), if_pos (Nat.le_refl _), Nat.sub_self]
      simp [lastByte]
    · obtain ⟨offset, rfl⟩ := Nat.exists_eq_add_of_lt hlt
      have hnone : lastByte [(start, byte)] (start + offset + 1) = none :=
        lastByte_eq_none (by simp; omega)
      have hoffset : start + offset + 1 - start = offset + 1 := by omega
      rw [if_pos (by omega), if_pos (by omega), hnone, Option.or_none, hoffset,
        List.getElem?_cons_succ]
      congr 1
      omega

theorem lastByte_flatMap (calls : List (Nat × Bytes)) (address : Nat) :
    lastByte (calls.flatMap cellsOf) address = lastWritten calls address := by
  induction calls with
  | nil => rfl
  | cons call calls ih =>
    rw [List.flatMap_cons, lastByte_append, ih, lastByte_cellsOf, lastWritten, lastWritten,
      List.reverse_cons, List.findSome?_append]
    simp

theorem size_eq (image : Image) : image.size = image.cells.length := by
  obtain ⟨blocks⟩ := image
  induction blocks with
  | nil => rfl
  | cons block blocks ih =>
    change block.data.length + size ⟨blocks⟩ = _
    rw [ih, cells, cells, List.flatMap_cons, List.length_append]
    simp [Block.cells]

/-- Calls that do not fail give 32-bit addresses. -/
theorem lt_size_of_mem (calls : List (Nat × Bytes)) :
    ∀ cell ∈ (calls.filter IsLegal).flatMap cellsOf, cell.1 < UInt32.size := by
  intro cell hcell
  obtain ⟨call, hcall, hmem⟩ := List.mem_flatMap.1 hcell
  obtain ⟨⟨byte, offset⟩, hoffset, rfl⟩ := List.mem_map.1 hmem
  have hlegal : IsLegal call := by simpa using (List.mem_filter.1 hcall).2
  have hlt := List.snd_lt_of_mem_zipIdx hoffset
  unfold IsLegal at hlegal
  dsimp only at hlt ⊢
  omega

/-- An image holds what was added to it, in that order, and its pages show what was added last. -/
theorem added_content (calls : List (Nat × Bytes)) :
    (∀ before call after, calls = before ++ call :: after →
      if UInt32.size < call.1 + call.2.length then
        (afterAll before).add call.1 call.2 = .error (.overflow call.1) ∧
          afterAll (before ++ [call]) = afterAll before
      else (afterAll before).add call.1 call.2 = .ok (afterAll (before ++ [call]))) ∧
    (afterAll calls).cells = (calls.filter IsLegal).flatMap cellsOf ∧
    (afterAll calls).size = ((calls.filter IsLegal).flatMap cellsOf).length ∧
    ∀ pageSize, let pages := (afterAll calls).pages pageSize
      Increasing pages ∧
      (∀ start, (∃ page ∈ pages, page.address = start) ↔ max pageSize 1 ∣ start ∧
        ∃ cell ∈ (calls.filter IsLegal).flatMap cellsOf,
          start ≤ cell.1 ∧ cell.1 < start + max pageSize 1) ∧
      ∀ page ∈ pages, (UInt32.ofNat page.address).toNat = page.address ∧
        page.data = (List.range (max pageSize 1)).map fun offset =>
          (lastWritten (calls.filter IsLegal) (page.address + offset)).getD 0xff := by
  have hcells : (afterAll calls).cells = (calls.filter IsLegal).flatMap cellsOf :=
    cells_foldl_after calls empty
  refine ⟨?_, hcells, (size_eq _).trans (congrArg List.length hcells), fun pageSize => ?_⟩
  · rintro before call after -
    rw [afterAll_concat]
    split
    case isTrue hlong => exact (afterAll before).add_of_not_legal (Nat.not_le.2 hlong)
    case isFalse hlong => exact ((afterAll before).add_of_legal (Nat.not_lt.1 hlong)).1
  · have hshows := shows_pages (afterAll calls) pageSize
    rw [hcells] at hshows
    refine ⟨hshows.increasing, hshows.exists_page_iff (Nat.le_max_right _ _), fun page hpage => ?_⟩
    have hlt := hshows.address_lt hpage (lt_size_of_mem calls)
    refine ⟨UInt32.toNat_ofNat_of_lt' hlt, ?_⟩
    simp only [hshows.data_eq hpage, lastByte_flatMap]

/-- A byte that is given again overrides the first one, in whatever block it is. -/
example : (afterAll [(0x10, [1, 2]), (0x11, [3]), (0x100000000, [4]), (0x17, [5])]).pages 4 =
    [⟨0x10, [1, 3, 0xff, 0xff]⟩, ⟨0x14, [0xff, 0xff, 0xff, 5]⟩] := by
  decide

end BoardDebug.Image
