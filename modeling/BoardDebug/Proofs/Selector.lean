import BoardDebug.CommandLine.DebugCommand
import BoardDebug.Hf2.Link
import BoardDebug.Proofs.Text.Utf8
import BoardDebug.Usb.Scripted
import Mathlib.Data.List.Induction

namespace BoardDebug

namespace Text

theorem digit?_digitChar {n : Nat} (h : n < 16) : digit? 16 n.digitChar = some n := by
  decide +revert

theorem exists_of_mem_toDigits {c : Char} {n : Nat} (h : c ∈ Nat.toDigits 16 n) :
    ∃ d < 16, c = d.digitChar := by
  induction n using Nat.strongRecOn with
  | ind n ih =>
    obtain hsmall | hlarge := Nat.lt_or_ge n 16
    · rw [Nat.toDigits_of_lt_base hsmall, List.mem_singleton] at h
      exact ⟨n, hsmall, h⟩
    · rw [Nat.toDigits_of_base_le (by decide) hlarge, List.mem_append, List.mem_singleton] at h
      obtain h | h := h
      · exact ih (n / 16) (by omega) h
      · exact ⟨n % 16, Nat.mod_lt _ (by decide), h⟩

theorem exists_of_mem_hexDigits {c : Char} {width n : Nat} (h : c ∈ hexDigits width n) :
    ∃ d < 16, c = d.digitChar := by
  rw [hexDigits, zeroFill, List.mem_append, List.mem_replicate] at h
  obtain ⟨-, rfl⟩ | h := h
  · exact ⟨0, by decide, rfl⟩
  · exact exists_of_mem_toDigits h

theorem notMem_hexDigits {c : Char} (h : ∀ d < 16, d.digitChar ≠ c) (width n : Nat) :
    c ∉ hexDigits width n := by
  intro hmem
  obtain ⟨d, hd, rfl⟩ := exists_of_mem_hexDigits hmem
  exact h d hd rfl

theorem mapM_digit?_toDigits (n : Nat) :
    ∃ values, (Nat.toDigits 16 n).mapM (digit? 16) = some values ∧
      values.foldl (fun n d => n * 16 + d) 0 = n := by
  induction n using Nat.strongRecOn with
  | ind n ih =>
    obtain hsmall | hlarge := Nat.lt_or_ge n 16
    · exact ⟨[n], by simp [Nat.toDigits_of_lt_base hsmall, digit?_digitChar hsmall], by simp⟩
    · obtain ⟨values, hread, hvalue⟩ := ih (n / 16) (by omega)
      have hlast : n % 16 < 16 := Nat.mod_lt _ (by decide)
      refine ⟨values ++ [n % 16], ?_, ?_⟩
      · simp [Nat.toDigits_of_base_le (by decide) hlarge, List.mapM_append, hread,
          digit?_digitChar hlast]
      · rw [List.foldl_append, hvalue]
        exact Nat.div_add_mod' n 16

theorem mapM_digit?_zeros (count : Nat) :
    (List.replicate count '0').mapM (digit? 16) = some (List.replicate count 0) := by
  induction count with
  | zero => rfl
  | succ count ih => simp [List.replicate_succ, ih, show digit? 16 '0' = some 0 from rfl]

/-- Zeros in front of a number do not count. -/
theorem digits?_hexDigits (width n : Nat) : digits? 16 (hexDigits width n) = some n := by
  obtain ⟨values, hread, hvalue⟩ := mapM_digit?_toDigits n
  have hzeros (count : Nat) :
      (List.replicate count 0).foldl (fun n d => n * 16 + d) 0 = 0 := by
    induction count with
    | zero => rfl
    | succ count ih => exact ih
  simp [digits?, hexDigits, zeroFill, List.mapM_append, mapM_digit?_zeros, hread,
    List.foldl_append, hzeros, hvalue]

theorem unsigned?_of_notMem {text : List Char} (h : '+' ∉ text) (base bound : Nat) :
    unsigned? base bound text = (digits? base text).filter (· < bound) := by
  unfold unsigned?
  split
  next digits => exact absurd (List.mem_cons_self ..) h
  next => rfl

end Text

namespace Selector

theorem dropMarks_of_notMem {text : List Char} (h : 'x' ∉ text) : dropMarks text = text := by
  unfold dropMarks
  split
  next rest => simp at h
  next => rfl

/-- A text is cut at its first colon. -/
theorem cut?_append {before : List Char} (h : ':' ∉ before) (after : List Char) :
    cut? (before ++ ':' :: after) = some (before, after) := by
  rw [cut?, Text.span_ne_append h]

theorem id?_hexDigits (id : UInt16) : id? (Text.hexDigits 4 id.toNat) = .ok id := by
  have hmark := Text.notMem_hexDigits (c := 'x') (by decide) 4 id.toNat
  have hsign := Text.notMem_hexDigits (c := '+') (by decide) 4 id.toNat
  have hbound : id.toNat < 0x10000 := id.toNat_lt
  simp [id?, dropMarks_of_notMem hmark, Text.unsigned?_of_notMem hsign, Text.digits?_hexDigits,
    Option.filter, hbound]

/-- What a device is listed with names it. A serial number without a character is none. -/
theorem ofText_selector (d : UsbDevice) :
    ofText d.selector = .ok ⟨d.vendorId, d.productId, d.serialNumber.filter (· ≠ "")⟩ := by
  have hcolon (n : Nat) := Text.notMem_hexDigits (c := ':') (by decide) 4 n
  have htext : d.selector.toList = Text.hexDigits 4 d.vendorId.toNat ++ ':' ::
      (Text.hexDigits 4 d.productId.toNat ++ ':' :: (d.serialNumber.getD "").toList) := by
    simp [UsbDevice.selector, Text.hex]
  rw [ofText, htext, cut?_append (hcolon _)]
  simp only [cut?_append (hcolon _), Option.getD_some, id?_hexDigits]
  cases d.serialNumber with
  | none => rfl
  | some serial =>
    by_cases hserial : serial = ""
    · subst hserial
      rfl
    · have hfilled : serial.toList.isEmpty = false := by simpa using hserial
      simp [Option.filter, hserial, bind, Except.bind, pure, Except.pure]

/-- A device has the ids that are asked for, and the serial number if one is. -/
def Names (s : Selector) (d : UsbDevice) : Prop :=
  s.vendorId = d.vendorId ∧ s.productId = d.productId ∧
    (s.serialNumber = none ∨ s.serialNumber = d.serialNumber)

/-- Options that mean a selected device admit it whatever its usage page is. -/
theorem admits_apply (s : Selector) (options : Hf2.Options) (d : UsbDevice) :
    (s.apply options).admits d = true ↔ s.Names d := by
  simp [apply, Hf2.Options.admits, Hf2.Options.meets, Names, and_assoc]

end Selector

namespace Hf2

variable {β : Type} [UsbBus β]

/-- The first device that is admitted is opened, if there is one. -/
theorem openDevice_of_mem {options : Options} {bus : β} {devices : List UsbDevice}
    {d : UsbDevice} (hdevices : UsbBus.devices bus = .ok devices) (hmem : d ∈ devices)
    (hadmits : options.admits d = true) :
    ∃ before first after, devices = before ++ first :: after ∧ options.admits first = true ∧
      (∀ other ∈ before, ¬options.admits other = true) ∧
      openDevice options bus = ofUsb (UsbBus.openDevice bus first) := by
  have hfound : (devices.find? options.admits).isSome := List.find?_isSome.2 ⟨d, hmem, hadmits⟩
  obtain ⟨first, hfirst⟩ := Option.isSome_iff_exists.1 hfound
  obtain ⟨hadmitted, before, after, rfl, hbefore⟩ := List.find?_eq_some_iff_append.1 hfirst
  refine ⟨before, first, after, rfl, hadmitted, fun other hother => ?_, ?_⟩
  · simpa using hbefore other hother
  · simp [openDevice, hdevices, ofUsb, hfirst, bind, Except.bind]

theorem ofUsb_ne_notFound {α : Type} (result : Except UsbFault α) :
    ofUsb result ≠ .error .notFound := by
  cases result <;> simp [ofUsb]

end Hf2

/-- A listed device can be selected: its line holds a text that names it; whatever the settings
are, they mean it once that text has been given on the command line; and on every bus on which it is
found, the first device with its ids, and with its serial number if it has one, is opened. -/
theorem UsbDevice.listed_selectable (d : UsbDevice) :
    (∃ before after, d.line = before ++ d.selector ++ after) ∧
    ∃ s, Selector.ofText d.selector = .ok s ∧
      s = ⟨d.vendorId, d.productId, d.serialNumber.filter (· ≠ "")⟩ ∧
      ∀ (arguments : CommandLine.DebugArguments) (settings : Settings),
        let options := ({ arguments with device := some s }.apply settings).device
        options.admits d = true ∧
        ∀ {β : Type} [UsbBus β] (bus : β) (devices : List UsbDevice),
          UsbBus.devices bus = .ok devices → d ∈ devices →
          ∃ before first after, devices = before ++ first :: after ∧ s.Names first ∧
            (∀ other ∈ before, ¬s.Names other) ∧
            Hf2.openDevice options bus = Hf2.ofUsb (UsbBus.openDevice bus first) ∧
            Hf2.openDevice options bus ≠ .error .notFound := by
  refine ⟨⟨d.product.getD "<unknown>" ++ " -- ", " (" ++ d.path ++ ")", ?_⟩, _,
    Selector.ofText_selector d, rfl, fun arguments settings => ?_⟩
  · simp only [UsbDevice.line, String.append_assoc]
  intro options
  have hnames : Selector.Names ⟨d.vendorId, d.productId, d.serialNumber.filter (· ≠ "")⟩ d := by
    refine ⟨rfl, rfl, ?_⟩
    cases d.serialNumber with
    | none => exact .inl rfl
    | some serial => by_cases hserial : serial = "" <;> simp [Option.filter, hserial]
  have hadmits := (Selector.admits_apply _ settings.device d).2 hnames
  refine ⟨hadmits, fun bus devices hdevices hmem => ?_⟩
  obtain ⟨before, first, after, hsplit, hfirst, hbefore, hopen⟩ :=
    Hf2.openDevice_of_mem hdevices hmem hadmits
  refine ⟨before, first, after, hsplit, (Selector.admits_apply ..).1 hfirst,
    fun other hother => ?_, hopen, ?_⟩
  · exact fun h => hbefore other hother ((Selector.admits_apply ..).2 h)
  · exact hopen ▸ Hf2.ofUsb_ne_notFound _

/-- Of two boards with the same ids the one with the serial number `B:2` is opened, though the
settings named another one. -/
theorem UsbDevice.listed_selectable_colon :
    let board : UsbDevice := ⟨0x239a, 0x18, Hf2.usagePage, some "B:2", none, "/dev/hidraw1"⟩
    let other : UsbDevice := { board with serialNumber := some "A", path := "/dev/hidraw0" }
    let bus : ScriptedBus := { ScriptedBus.empty with devices := [other, board] }
    let settings : Settings :=
      ⟨⟨none, none⟩, { Hf2.Options.standard with vendorId := some 1, serialNumber := some "A" },
        .standard, .standard⟩
    UsbBus.devices bus = .ok [other, board] ∧ board ∈ [other, board] ∧
      ∃ s, Selector.ofText board.selector = .ok s ∧
        Hf2.openDevice ({ CommandLine.DebugArguments.blank with device := some s }.apply
          settings).device bus = Hf2.ofUsb (UsbBus.openDevice bus board) := by
  intro board other bus settings
  have hmem : board ∈ [other, board] := by simp
  obtain ⟨-, s, hread, hs, hselected⟩ := board.listed_selectable
  obtain ⟨-, hopened⟩ := hselected .blank settings
  obtain ⟨before, first, after, hsplit, hnames, -, hopen, -⟩ := hopened bus [other, board] rfl hmem
  have hfirst : first = board := by
    have hlisted : first ∈ [other, board] := by
      rw [hsplit]
      simp
    obtain rfl | rfl : first = other ∨ first = board := by simpa using hlisted
    · simp [Selector.Names, hs, other, board, Option.filter] at hnames
    · rfl
  exact ⟨rfl, hmem, s, hread, hfirst ▸ hopen⟩

/-! ### The grammar of selectors -/

namespace Text

/-- A digit in either case; its place in the row of all digits is its value. -/
def IsHexDigit (c : Char) (value : Nat) : Prop :=
  "0123456789abcdef".toList[value]? = some c ∨ "0123456789ABCDEF".toList[value]? = some c

instance (c : Char) (value : Nat) : Decidable (IsHexDigit c value) :=
  inferInstanceAs (Decidable (_ ∨ _))

/-- Digits that spell a number, the last of them in its lowest place. -/
inductive SpellsHex : List Char → Nat → Prop where
  | digit {c : Char} {value : Nat} (h : IsHexDigit c value) : SpellsHex [c] value
  | concat {digits : List Char} {n : Nat} {c : Char} {value : Nat} (hdigits : SpellsHex digits n)
      (h : IsHexDigit c value) : SpellsHex (digits ++ [c]) (n * 16 + value)

theorem digit?_eq_some {c : Char} {value : Nat} :
    digit? 16 c = some value ↔ IsHexDigit c value := by
  constructor
  · intro h
    obtain ⟨hread, -⟩ := Option.filter_eq_some_iff.1 h
    -- Only the first 128 characters can be digits, and of these all can be tried.
    have hsmall : c.toNat < 128 := by
      unfold hexDigit? at hread
      simp only [Char.le_def, UInt32.le_iff_toNat_le] at hread
      have := c.toNat_val
      grind
    have htried : ∀ n < 128, ∀ value ∈ digit? 16 (.ofNat n), IsHexDigit (.ofNat n) value := by
      decide +kernel
    rw [← c.ofNat_toNat] at h ⊢
    exact htried _ hsmall _ h
  · have htried : ∀ row ∈ ["0123456789abcdef".toList, "0123456789ABCDEF".toList],
        ∀ digit ∈ row.zipIdx, digit? 16 digit.1 = some digit.2 := by
      decide
    rintro (h | h)
    · exact htried _ (by simp) (c, value) (List.mem_zipIdx_iff_getElem?.2 h)
    · exact htried _ (by simp) (c, value) (List.mem_zipIdx_iff_getElem?.2 h)

theorem digits?_concat {digits : List Char} (h : digits ≠ []) (c : Char) :
    digits? 16 (digits ++ [c]) =
      (digits? 16 digits).bind fun n => (digit? 16 c).map fun value => n * 16 + value := by
  have hempty : digits.isEmpty = false := by simpa using h
  cases hread : digits.mapM (digit? 16) <;> cases hlast : digit? 16 c <;>
    simp [digits?, hempty, List.mapM_append, hread, hlast]

theorem digits?_eq_some {digits : List Char} {n : Nat} :
    digits? 16 digits = some n ↔ SpellsHex digits n := by
  constructor
  · intro h
    induction digits using List.reverseRecOn generalizing n with
    | nil => cases h
    | append_singleton digits c ih =>
      by_cases hfirst : digits = []
      · subst hfirst
        have hdigit : digit? 16 c = some n := by
          cases hc : digit? 16 c <;> simp_all [digits?]
        exact .digit (digit?_eq_some.1 hdigit)
      · rw [digits?_concat hfirst] at h
        obtain ⟨high, hhigh, h⟩ := Option.bind_eq_some_iff.1 h
        obtain ⟨value, hvalue, rfl⟩ := Option.map_eq_some_iff.1 h
        exact .concat (ih hhigh) (digit?_eq_some.1 hvalue)
  · intro h
    induction h with
    | digit h => simp [digits?, digit?_eq_some.2 h]
    | @concat digits n c value hdigits h ih =>
      have hfirst : digits ≠ [] := by
        rintro rfl
        cases ih
      rw [digits?_concat hfirst, ih, digit?_eq_some.2 h]
      rfl

end Text

namespace Selector

/-- What is left of a text when all marks in front of it are taken off. -/
structure IsBare (text rest : List Char) : Prop where
  marks : ∃ count, text = (List.replicate count ['0', 'x']).flatten ++ rest
  bare : ¬['0', 'x'] <+: rest

/-- A text that names an id: marks, a plus sign or none, and the digits of the id. -/
def IsId (text : List Char) (id : UInt16) : Prop :=
  ∃ rest digits, IsBare text rest ∧ (rest = digits ∨ rest = '+' :: digits) ∧
    Text.SpellsHex digits id.toNat

/-- The parts of a selector's text: two ids, and a serial number if there is a second colon. -/
structure IsSplit (text vendor product : List Char) (serial : Option (List Char)) : Prop where
  notMem_vendor : ':' ∉ vendor
  notMem_product : ':' ∉ product
  eq_append : text = vendor ++ ':' :: (product ++ (serial.map (':' :: ·)).getD [])

theorem isBare_dropMarks (text : List Char) : IsBare text (dropMarks text) := by
  fun_induction dropMarks text with
  | case1 rest ih =>
    obtain ⟨count, hmarks⟩ := ih.marks
    refine ⟨⟨count + 1, ?_⟩, ih.bare⟩
    rw [List.replicate_succ, List.flatten_cons, List.append_assoc, ← hmarks]
    rfl
  | case2 text hmark =>
    refine ⟨⟨0, rfl⟩, ?_⟩
    rintro ⟨rest, hrest⟩
    exact hmark rest hrest.symm

theorem dropMarks_marks (count : Nat) (rest : List Char) :
    dropMarks ((List.replicate count ['0', 'x']).flatten ++ rest) = dropMarks rest := by
  induction count with
  | zero => rfl
  | succ count ih =>
    rw [List.replicate_succ, List.flatten_cons, List.append_assoc]
    exact ih

theorem IsBare.dropMarks_eq {text rest : List Char} (h : IsBare text rest) :
    dropMarks text = rest := by
  obtain ⟨count, rfl⟩ := h.marks
  rw [dropMarks_marks]
  unfold dropMarks
  split
  case h_1 left => exact absurd ⟨left, rfl⟩ h.bare
  case h_2 => rfl

/-- A plus sign is no digit, so it is clear whether it belongs to the number. -/
theorem unsigned?_eq_some {text : List Char} {bound n : Nat} :
    Text.unsigned? 16 bound text = some n ↔
      n < bound ∧ ∃ digits, (text = digits ∨ text = '+' :: digits) ∧ Text.SpellsHex digits n := by
  have hdigit : Text.digit? 16 '+' = none := by decide
  have hsign (digits : List Char) : ¬Text.SpellsHex ('+' :: digits) n := by
    rw [← Text.digits?_eq_some]
    simp [Text.digits?, hdigit]
  unfold Text.unsigned?
  split
  case h_1 digits =>
    simp [Option.filter_eq_some_iff, Text.digits?_eq_some, hsign, and_comm]
  case h_2 hplain =>
    have hnone (digits : List Char) : text ≠ '+' :: digits := fun heq => hplain digits heq
    simp [Option.filter_eq_some_iff, Text.digits?_eq_some, hnone, and_comm]

theorem id?_eq_ok {text : List Char} {id : UInt16} : id? text = .ok id ↔ IsId text id := by
  have hnumber : Text.unsigned? 16 0x10000 (dropMarks text) = some id.toNat ↔ IsId text id := by
    rw [unsigned?_eq_some]
    constructor
    · rintro ⟨-, digits, hdigits, hspells⟩
      exact ⟨_, digits, isBare_dropMarks text, hdigits, hspells⟩
    · rintro ⟨rest, digits, hrest, hdigits, hspells⟩
      exact ⟨id.toNat_lt, digits, hrest.dropMarks_eq ▸ hdigits, hspells⟩
  rw [← hnumber, id?]
  cases hread : Text.unsigned? 16 0x10000 (dropMarks text) with
  | none => simp
  | some n =>
    have hbound : n < 0x10000 := (unsigned?_eq_some.1 hread).1
    have hid : UInt16.ofNat n = id ↔ n = id.toNat := by
      rw [← UInt16.toNat_inj, UInt16.toNat_ofNat', Nat.mod_eq_of_lt hbound]
    simp [hid]

theorem id?_eq_error {text : List Char} {error : SelectorError} :
    id? text = .error error ↔ error = .badId (String.ofList text) ∧ ¬∃ id, IsId text id := by
  simp only [← id?_eq_ok]
  unfold id?
  split
  case h_1 => simp
  case h_2 => simp [eq_comm]

theorem exists_isSplit {text : List Char} (h : ':' ∈ text) :
    ∃ vendor product serial, IsSplit text vendor product serial := by
  obtain ⟨vendor, rest, rfl, hvendor⟩ := List.eq_append_cons_of_mem h
  by_cases hrest : ':' ∈ rest
  · obtain ⟨product, serial, rfl, hproduct⟩ := List.eq_append_cons_of_mem hrest
    exact ⟨vendor, product, some serial, hvendor, hproduct, rfl⟩
  · exact ⟨vendor, rest, none, hvendor, hrest, by simp⟩

/-- Without a colon there is nothing to cut. -/
theorem cut?_eq_none {text : List Char} (h : ':' ∉ text) : cut? text = none := by
  have hspan : text.span (· ≠ ':') = (text, []) := by
    have hall : ∀ c ∈ text, decide (c ≠ ':') = true := fun c hc =>
      decide_eq_true (ne_of_mem_of_not_mem hc h)
    have hcut : (text ++ []).span (· ≠ ':') = (text, []) := Text.span_append hall (by simp)
    simpa using hcut
  rw [cut?, hspan]

theorem ofText_of_isSplit {text : String} {vendor product : List Char}
    {serial : Option (List Char)} (h : IsSplit text.toList vendor product serial) :
    ofText text = do
      let vendorId ← id? vendor
      let productId ← id? product
      return ⟨vendorId, productId, (serial.filter (· ≠ [])).map String.ofList⟩ := by
  rw [ofText, h.eq_append, cut?_append h.notMem_vendor]
  cases serial with
  | none => simp [cut?_eq_none h.notMem_product]
  | some serial =>
    have hserial : (if serial.isEmpty then none else some (String.ofList serial)) =
        ((some serial).filter (· ≠ [])).map String.ofList := by
      cases serial <;> simp [Option.filter]
    simp only [Option.map_some, Option.getD_some, cut?_append h.notMem_product, hserial]

theorem ofText_eq_ok {text : String} {vendor product : List Char} {serial : Option (List Char)}
    (h : IsSplit text.toList vendor product serial) {s : Selector} :
    ofText text = .ok s ↔ IsId vendor s.vendorId ∧ IsId product s.productId ∧
      s.serialNumber = (serial.filter (· ≠ [])).map String.ofList := by
  obtain ⟨vendorId, productId, serialNumber⟩ := s
  simp only [ofText_of_isSplit h, ← id?_eq_ok]
  cases id? vendor <;> cases id? product <;>
    simp [bind, Except.bind, pure, Except.pure, eq_comm]

/-- The vendor id is looked at first. -/
theorem ofText_eq_error {text : String} {vendor product : List Char}
    {serial : Option (List Char)} (h : IsSplit text.toList vendor product serial)
    {error : SelectorError} :
    ofText text = .error error ↔
      (¬∃ id, IsId vendor id) ∧ error = .badId (String.ofList vendor) ∨
      (∃ id, IsId vendor id) ∧ (¬∃ id, IsId product id) ∧
        error = .badId (String.ofList product) := by
  rw [ofText_of_isSplit h]
  cases hvendor : id? vendor with
  | error fault =>
    obtain ⟨rfl, hnone⟩ := id?_eq_error.1 hvendor
    simp [hnone, bind, Except.bind, eq_comm]
  | ok vendorId =>
    have hsome : ∃ id, IsId vendor id := ⟨vendorId, id?_eq_ok.1 hvendor⟩
    cases hproduct : id? product with
    | error fault =>
      obtain ⟨rfl, hnone⟩ := id?_eq_error.1 hproduct
      simp [hsome, hnone, bind, Except.bind, eq_comm]
    | ok productId =>
      have hsome' : ∃ id, IsId product id := ⟨productId, id?_eq_ok.1 hproduct⟩
      simp [hsome, hsome', bind, Except.bind, pure, Except.pure]

/-- What a text selects, and what is wrong with a text that selects nothing. -/
theorem ofText_grammar (text : String) :
    (∀ s : Selector, ofText text = .ok s ↔
      ∃ vendor product serial, IsSplit text.toList vendor product serial ∧
        IsId vendor s.vendorId ∧ IsId product s.productId ∧
        s.serialNumber = (serial.filter (· ≠ [])).map String.ofList) ∧
    (∀ error, ofText text = .error error ↔
      ':' ∉ text.toList ∧ error = .format ∨
      ∃ vendor product serial, IsSplit text.toList vendor product serial ∧
        ((¬∃ id, IsId vendor id) ∧ error = .badId (String.ofList vendor) ∨
          (∃ id, IsId vendor id) ∧ (¬∃ id, IsId product id) ∧
            error = .badId (String.ofList product))) := by
  by_cases hcolon : ':' ∈ text.toList
  case neg =>
    have hread : ofText text = .error .format := by rw [ofText, cut?_eq_none hcolon]
    have hsplit : ∀ vendor product serial, ¬IsSplit text.toList vendor product serial :=
      fun vendor product serial h => hcolon (by simp [h.eq_append])
    simp [hread, hsplit, hcolon, eq_comm]
  case pos =>
    obtain ⟨vendor, product, serial, hsplit⟩ := exists_isSplit hcolon
    refine ⟨fun s => ⟨fun hread => ?_, ?_⟩, fun error => ⟨fun hread => ?_, ?_⟩⟩
    · exact ⟨vendor, product, serial, hsplit, (ofText_eq_ok hsplit).1 hread⟩
    · rintro ⟨_, _, _, hother, hparts⟩
      exact (ofText_eq_ok hother).2 hparts
    · exact .inr ⟨vendor, product, serial, hsplit, (ofText_eq_error hsplit).1 hread⟩
    · rintro (⟨hnone, -⟩ | ⟨_, _, _, hother, hparts⟩)
      · exact absurd hcolon hnone
      · exact (ofText_eq_error hother).2 hparts

/-- Marks and zeros may be repeated, and the serial number may hold colons. -/
example :
    ofText "0x0x+239a:000000018:A1:B2" = .ok ⟨0x239a, 0x18, some "A1:B2"⟩ ∧
      ofText "+0x239a:18" = .error (.badId "+0x239a") ∧
      ofText "0x10000:zz" = .error (.badId "0x10000") := by
  decide +kernel

end Selector

end BoardDebug
