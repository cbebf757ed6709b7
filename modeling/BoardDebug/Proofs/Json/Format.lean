import BoardDebug.Json.Decoder
import BoardDebug.Json.Value
import BoardDebug.Proofs.Json.Grammar
import BoardDebug.Proofs.Sorted
import Mathlib.Data.List.Nodup

namespace BoardDebug.Json

/-! ### Numbers -/

/-- A number in its decimal digits. -/
def decimal (n : Nat) : Bytes :=
  Utf8.encode (Nat.toDigits 10 n)

theorem decimal_of_lt {n : Nat} (h : n < 10) : decimal n = [.ofNat (n + 0x30)] := by
  have : ∀ n : Fin 10, decimal n = [.ofNat (n + 0x30)] := by decide +kernel
  exact this ⟨n, h⟩

theorem decimal_of_le {n : Nat} (h : 10 ≤ n) :
    decimal n = decimal (n / 10) ++ [.ofNat (n % 10 + 0x30)] := by
  have hlast : n % 10 < 10 := Nat.mod_lt _ (by decide)
  rw [← decimal_of_lt hlast, decimal, Nat.toDigits_of_base_le (by decide) h, Utf8.encode_append,
    ← Nat.toDigits_of_lt_base hlast]
  rfl

theorem isDigit_ofNat {n : Nat} (h : n < 10) : isDigit (.ofNat (n + 0x30)) = true := by
  have : ∀ n : Fin 10, isDigit (.ofNat (n + 0x30)) = true := by decide
  exact this ⟨n, h⟩

/-- The first of the digits is zero only if that is all there is. -/
theorem exists_decimal_eq {n : Nat} (h : n ≠ 0) :
    ∃ first more, decimal n = first :: more ∧ isDigit first = true ∧ first ≠ 0x30 ∧
      ∀ digit ∈ more, isDigit digit = true := by
  induction n using Nat.strongRecOn with
  | _ n ih =>
    by_cases hlt : n < 10
    · refine ⟨_, [], decimal_of_lt hlt, isDigit_ofNat hlt, ?_, by simp⟩
      rw [ne_eq, ← UInt8.toNat_inj, UInt8.toNat_ofNat']
      simp only [UInt8.toNat_ofNat]
      omega
    · obtain ⟨first, more, hdecimal, hfirst, hzero, hmore⟩ := ih (n / 10) (by omega) (by omega)
      refine ⟨first, more ++ [.ofNat (n % 10 + 0x30)], ?_, hfirst, hzero, ?_⟩
      · rw [decimal_of_le (by omega), hdecimal, List.cons_append]
      · simp only [List.mem_append, List.mem_singleton]
        rintro digit (hdigit | rfl)
        · exact hmore digit hdigit
        · exact isDigit_ofNat (Nat.mod_lt _ (by decide))

theorem isWhole_decimal (n : Nat) : IsWhole (decimal n) := by
  by_cases h : n = 0
  · subst h
    exact .zero
  · obtain ⟨first, more, hdecimal, hfirst, hzero, hmore⟩ := exists_decimal_eq h
    exact hdecimal ▸ .digits hfirst hzero hmore

@[simp] theorem digitsValue_decimal (n : Nat) : digitsValue (decimal n) = n := by
  induction n using Nat.strongRecOn with
  | _ n ih =>
    have hdigit {n : Nat} (h : n < 10) : (UInt8.ofNat (n + 0x30)).toNat - 0x30 = n := by
      rw [UInt8.toNat_ofNat']
      omega
    by_cases hlt : n < 10
    · simp only [decimal_of_lt hlt, digitsValue, List.foldl_cons, List.foldl_nil, hdigit hlt]
      omega
    · have := ih (n / 10) (by omega)
      rw [digitsValue] at this ⊢
      rw [decimal_of_le (by omega), List.foldl_append, this]
      simp only [List.foldl_cons, List.foldl_nil, hdigit (Nat.mod_lt n (by decide : 0 < 10))]
      omega

/-- Digits are read as the number that they spell, if it is not too large. -/
theorem number_append {whole rest : Bytes} (h : IsWhole whole) (hends : Ends rest)
    (hlt : digitsValue whole < 0x10000000000000000) :
    number false (whole ++ rest) = .ok (.natural (digitsValue whole), rest) := by
  obtain ⟨exponent, hexponent⟩ := exponentPart_append .none hends
  have hfraction := fractionDigits_append .none hends.not_isDigit (hends.head_ne (.inl rfl))
  rw [List.nil_append] at hexponent hfraction
  simp only [number, wholeDigits_append h hends.not_isDigit, hfraction, hexponent, bind,
    Except.bind, hlt, and_self, if_true]
  rfl

/-! ### Formats -/

/-- The texts that spell a value. -/
abbrev Format (α : Type) := α → Bytes → Prop

variable {α β σ : Type} {depth : Nat}

/-- A reader takes every text of a format for the value that it spells. `depth` is how many brackets
lie inside one another there. -/
structure Reads (depth : Nat) (format : Format α) (read : Decoder α) : Prop where
  skipBlanks_eq : ∀ more bytes, read more (skipBlanks bytes) = read more bytes
  starts : ∀ {a text}, format a text → ∀ rest, ∃ first more,
    skipBlanks (text ++ rest) = first :: more ∧ first ≠ 0x5d
  reads : ∀ {a text}, format a text → ∀ {more rest}, depth ≤ more → Ends rest →
    read more (text ++ rest) = .ok (a, rest)

theorem Reads.mono {format : Format α} {read : Decoder α} (h : Reads depth format read) {more : Nat}
    (hle : depth ≤ more) : Reads more format read where
  skipBlanks_eq := h.skipBlanks_eq
  starts := h.starts
  reads htext _ _ hmore hends := h.reads htext (Nat.le_trans hle hmore) hends

/-- Behind its value a text may go on with blanks. -/
theorem Reads.run_eq {format : Format α} {read : Decoder α} (h : Reads depth format read)
    (hdepth : depth ≤ maxDepth) {a : α} {text ws : Bytes} (htext : format a text)
    (hws : Blanks ws) : read.run (text ++ ws) = .ok a := by
  have hrest : skipBlanks ws = [] := List.append_nil ws ▸ skipBlanks_append hws []
  rw [Decoder.run, h.reads htext hdepth (ends_of_blanks hws)]
  simp [hrest]

namespace Format

/-- What comes behind blanks. -/
def behindBlanks (format : Format α) : Format α := fun a text =>
  ∃ ws body, Blanks ws ∧ format a body ∧ text = ws ++ body

theorem behindBlanks_of {format : Format α} {a : α} {text : Bytes} (h : format a text) :
    behindBlanks format a text :=
  ⟨[], text, blanks_nil, h, rfl⟩

/-- The digits of a word. -/
def word : Format UInt32 :=
  behindBlanks fun word text => text = decimal word.toNat

/-- A text in quotes. -/
def text : Format String :=
  behindBlanks fun s text => ∃ body, Spells s.toList body ∧ text = 0x22 :: (body ++ [0x22])

/-- One of a few names, in quotes. -/
def choice (names : List (String × α)) : Format α :=
  behindBlanks fun a text => ∃ name body, names.find? (·.1 == name) = some (name, a) ∧
    Spells name.toList body ∧ text = 0x22 :: (body ++ [0x22])

/-- A value, or `null` for none. -/
def optional (format : Format α) : Format (Option α)
  | none => behindBlanks (fun _ text => text = 0x6e :: ull) ()
  | some a => format a

/-- What stands in front of an item or a member: blanks, and a comma if it is not the first one. -/
def Opens : Bool → Bytes → Prop
  | true, front => Blanks front
  | false, front => ∃ ws ws', Blanks ws ∧ Blanks ws' ∧ front = ws ++ 0x2c :: ws'

/-- The items of a list and its closing bracket. -/
inductive Items (format : Format α) : Bool → List α → Bytes → Prop where
  | close {isFirst : Bool} {ws : Bytes} : Blanks ws → Items format isFirst [] (ws ++ [0x5d])
  | item {isFirst : Bool} {front text more : Bytes} {a : α} {items : List α} :
      Opens isFirst front → format a text → Items format false items more →
      Items format isFirst (a :: items) (front ++ (text ++ more))

def list (format : Format α) : Format (List α) :=
  behindBlanks fun items text => ∃ more, Items format true items more ∧ text = 0x5b :: more

/-- The members of an object and its closing brace: the names, with the texts of their values. -/
inductive Members : Bool → List (String × Bytes) → Bytes → Prop where
  | close {isFirst : Bool} {ws : Bytes} : Blanks ws → Members isFirst [] (ws ++ [0x7d])
  | member {isFirst : Bool} {front body ws text more : Bytes} {name : String}
      {members : List (String × Bytes)} :
      Opens isFirst front → Spells name.toList body → Blanks ws → Members false members more →
      Members isFirst ((name, text) :: members)
        (front ++ 0x22 :: (body ++ 0x22 :: (ws ++ 0x3a :: (text ++ more))))

/-- An object of any names. Of two values with one name the later counts. -/
def dictionary (format : Format α) : Format (List (String × α)) :=
  behindBlanks fun pairs text => ∃ found members more, Sorted.ofList found = pairs ∧
    List.Forall₂ (fun pair m => pair.1 = m.1 ∧ format pair.2 m.2) found members ∧
    Members true members more ∧ text = 0x7b :: more

end Format

/-- A member of a record: its name, and how its value is spelled. -/
structure Slot (α : Type) where
  name : String
  format : Format α
  /-- Whether the member may be left out. -/
  mayMiss : α → Prop

namespace Slot

variable {τ : Type}

def required (name : String) (get : α → τ) (format : Format τ) : Slot α where
  name
  format a := format (get a)
  mayMiss _ := False

/-- A member that may be left out if it has the value that counts then. -/
def defaulted (name : String) (get : α → τ) (format : Format τ) (standard : τ) : Slot α where
  name
  format a := format (get a)
  mayMiss a := get a = standard

/-- Members of an object spell a record, in any order: each member of the record is there once, or
may be left out, and what is there besides has any name and any value. -/
structure Fit (slots : List (Slot α)) (a : α) (members : List (String × Bytes)) : Prop where
  known : ∀ slot ∈ slots, ∀ text, (slot.name, text) ∈ members → slot.format a text
  unknown : ∀ name text, (name, text) ∈ members → name ∉ slots.map (·.name) → IsValue text
  once : ((members.map (·.1)).filter (slots.map (·.name)).contains).Nodup
  missing : ∀ slot ∈ slots, slot.name ∉ members.map (·.1) → slot.mayMiss a

variable {slots : List (Slot α)} {a : α} {members : List (String × Bytes)}

/-- The order of the members does not matter. -/
theorem Fit.perm (h : Fit slots a members) {others : List (String × Bytes)}
    (hperm : members.Perm others) : Fit slots a others where
  known slot hslot text hmem := h.known slot hslot text (hperm.mem_iff.2 hmem)
  unknown name text hmem := h.unknown name text (hperm.mem_iff.2 hmem)
  once := ((hperm.map _).filter _).nodup_iff.1 h.once
  missing slot hslot hnone := h.missing slot hslot fun hmem => hnone ((hperm.map _).mem_iff.1 hmem)

/-- A member may be left out that has the value that counts then. -/
theorem Fit.leaveOut {m : String × Bytes} (h : Fit slots a (m :: members))
    (hmiss : ∀ slot ∈ slots, slot.name = m.1 → slot.mayMiss a) : Fit slots a members where
  known slot hslot text hmem := h.known slot hslot text (List.mem_cons_of_mem _ hmem)
  unknown name text hmem := h.unknown name text (List.mem_cons_of_mem _ hmem)
  once := h.once.sublist (((List.sublist_cons_self m members).map _).filter _)
  missing slot hslot hnone := by
    by_cases hname : slot.name = m.1
    · exact hmiss slot hslot hname
    · exact h.missing slot hslot (by simpa [hname] using hnone)

/-- A member may be spelled in another way. -/
theorem Fit.respell {name : String} {text text' : Bytes} (h : Fit slots a ((name, text) :: members))
    (hmem : name ∈ slots.map (·.name))
    (htext : ∀ slot ∈ slots, slot.name = name → slot.format a text') :
    Fit slots a ((name, text') :: members) where
  known slot hslot other hother := by
    obtain heq | hother := List.mem_cons.1 hother
    · exact (Prod.mk.inj heq).2 ▸ htext slot hslot (Prod.mk.inj heq).1
    · exact h.known slot hslot other (List.mem_cons_of_mem _ hother)
  unknown name' other hother hnone := by
    obtain heq | hother := List.mem_cons.1 hother
    · exact absurd ((Prod.mk.inj heq).1 ▸ hmem) hnone
    · exact h.unknown name' other (List.mem_cons_of_mem _ hother) hnone
  once := h.once
  missing := h.missing

/-- Other members may be there, with any values. -/
theorem Fit.add (h : Fit slots a members) {name : String} {text : Bytes}
    (hname : name ∉ slots.map (·.name)) (htext : IsValue text) :
    Fit slots a ((name, text) :: members) where
  known slot hslot text hmem := by
    obtain heq | hmem := List.mem_cons.1 hmem
    · have hmem : slot.name ∈ slots.map (·.name) := List.mem_map_of_mem hslot
      exact absurd ((Prod.mk.inj heq).1 ▸ hmem) hname
    · exact h.known slot hslot text hmem
  unknown name' text' hmem hnone := by
    obtain heq | hmem := List.mem_cons.1 hmem
    · exact (Prod.mk.inj heq).2 ▸ htext
    · exact h.unknown name' text' hmem hnone
  once := by
    rw [List.map_cons, List.filter_cons_of_neg (by simpa using hname)]
    exact h.once
  missing slot hslot hnone := h.missing slot hslot fun hmem => hnone (List.mem_cons_of_mem _ hmem)

/-- All members in their order spell a record. -/
theorem fit_of_forall₂
    (h : List.Forall₂ (fun slot m => slot.name = m.1 ∧ slot.format a m.2) slots members)
    (hnodup : (slots.map (·.name)).Nodup) : Fit slots a members := by
  have hnames : members.map (·.1) = slots.map (·.name) := by
    clear hnodup
    induction h with
    | nil => rfl
    | cons hslot _ ih => simp [hslot.1, ih]
  have hformat : ∀ m ∈ members, ∃ slot ∈ slots, slot.name = m.1 ∧ slot.format a m.2 := by
    clear hnodup hnames
    induction h with
    | nil => simp
    | @cons slot m slots members hslot _ ih =>
      intro m' hm'
      obtain rfl | hm' := List.mem_cons.1 hm'
      · exact ⟨slot, List.mem_cons_self, hslot⟩
      · obtain ⟨slot', hslot', hfits⟩ := ih m' hm'
        exact ⟨slot', List.mem_cons_of_mem _ hslot', hfits⟩
  refine ⟨fun slot hslot text hmem => ?_, fun name text hmem hnone => ?_, ?_,
    fun slot hslot hnone => ?_⟩
  · obtain ⟨slot', hslot', hname, hfits⟩ := hformat _ hmem
    obtain rfl := List.inj_on_of_nodup_map hnodup hslot' hslot hname
    exact hfits
  · exact absurd (hnames ▸ List.mem_map_of_mem hmem) hnone
  · rw [hnames]
    exact hnodup.filter _
  · exact absurd (hnames ▸ List.mem_map_of_mem hslot) hnone

end Slot

/-- The objects that spell a record. -/
def Format.record (slots : List (Slot α)) : Format α :=
  behindBlanks fun a text => ∃ members more, Slot.Fit slots a members ∧
    Format.Members true members more ∧ text = 0x7b :: more

/-! ### Readers -/

/-- To read a format behind blanks it is enough to read it without them. -/
theorem reads_behindBlanks {format : Format α} {read : Decoder α}
    (hblanks : ∀ more bytes, read more (skipBlanks bytes) = read more bytes)
    (hstarts : ∀ {a text}, format a text → ∃ first more,
      text = first :: more ∧ isBlank first = false ∧ first ≠ 0x5d)
    (hreads : ∀ {a text}, format a text → ∀ {more rest}, depth ≤ more → Ends rest →
      read more (text ++ rest) = .ok (a, rest)) :
    Reads depth format.behindBlanks read where
  skipBlanks_eq := hblanks
  starts := by
    rintro a _ ⟨ws, text, hws, htext, rfl⟩ rest
    obtain ⟨first, more, rfl, hblank, hne⟩ := hstarts htext
    rw [List.append_assoc, skipBlanks_append hws, List.cons_append, skipBlanks_cons hblank]
    exact ⟨_, _, rfl, hne⟩
  reads := by
    rintro a _ ⟨ws, text, hws, htext, rfl⟩ more rest hmore hends
    rw [← hblanks, List.append_assoc, skipBlanks_append hws, hblanks]
    exact hreads htext hmore hends

theorem reads_word : Reads 0 Format.word Decoder.word := by
  refine reads_behindBlanks (fun more bytes => ?_) ?_ ?_
  · simp [Decoder.word, Decoder.map, Decoder.natural]
  · rintro word _ rfl
    obtain ⟨first, more, hdecimal, hfirst⟩ := (isWhole_decimal word.toNat).exists_cons
    refine ⟨first, more, hdecimal, not_isBlank_of_isDigit hfirst, ?_⟩
    rintro rfl
    cases hfirst
  · rintro word _ rfl more rest - hends
    have hlt : word.toNat < 0x100000000 := word.toNat_lt
    have hnumber := number_append (isWhole_decimal word.toNat) hends (by simp; omega)
    obtain ⟨first, digits, hdecimal, hfirst⟩ := (isWhole_decimal word.toNat).exists_cons
    rw [digitsValue_decimal, hdecimal, List.cons_append] at hnumber
    have hminus : first ≠ 0x2d := by
      rintro rfl
      cases hfirst
    have hle : word.toNat ≤ 0xffffffff := by omega
    simp [Decoder.word, Decoder.map, Decoder.natural, hdecimal,
      skipBlanks_cons (not_isBlank_of_isDigit hfirst), hminus, hfirst, hnumber, hle]

theorem reads_text : Reads 0 Format.text Decoder.string := by
  refine reads_behindBlanks (fun more bytes => ?_) ?_ ?_
  · simp [Decoder.string]
  · rintro s _ ⟨body, -, rfl⟩
    exact ⟨_, _, rfl, rfl, by decide⟩
  · rintro s _ ⟨body, hbody, rfl⟩ more rest - -
    have := stringText_append hbody rest
    simp [Decoder.string, skipBlanks_cons, isBlank, this]

theorem reads_choice (names : List (String × α)) :
    Reads 0 (Format.choice names) (Decoder.choice names) := by
  refine reads_behindBlanks (fun more bytes => ?_) ?_ ?_
  · simp [Decoder.choice]
  · rintro a _ ⟨name, body, -, -, rfl⟩
    exact ⟨_, _, rfl, rfl, by decide⟩
  · rintro a _ ⟨name, body, hname, hbody, rfl⟩ more rest - -
    have hread := stringText_append hbody rest
    rw [String.ofList_toList] at hread
    simp [Decoder.choice, Decoder.choice.pick, skipBlanks_cons, isBlank, hread, hname, bind,
      Except.bind, pure, Except.pure]

/-- A value that may be missing is read, unless it looks like `null` itself. -/
theorem Reads.optional {format : Format α} {read : Decoder α} (h : Reads depth format read)
    (hnull : ∀ {a text}, format a text → ∀ rest, (skipBlanks (text ++ rest)).head? ≠ some 0x6e) :
    Reads depth format.optional (Decoder.optional read) where
  skipBlanks_eq more bytes := by simp [Decoder.optional]
  starts := by
    rintro (_ | a) text htext rest
    · obtain ⟨ws, _, hws, rfl, rfl⟩ := htext
      rw [List.append_assoc, List.cons_append, skipBlanks_append_cons hws rfl]
      exact ⟨_, _, rfl, by decide⟩
    · exact h.starts htext rest
  reads := by
    rintro (_ | a) text htext more rest hmore hends
    · obtain ⟨ws, _, hws, rfl, rfl⟩ := htext
      rw [Decoder.optional, List.append_assoc, List.cons_append, skipBlanks_append_cons hws rfl]
      simp [keyword_append, Except.map]
    · obtain ⟨first, others, hfirst, -⟩ := h.starts htext rest
      have hne : first ≠ 0x6e := by
        rintro rfl
        exact hnull htext rest (by rw [hfirst]; rfl)
      have hread := h.reads htext hmore hends
      rw [← h.skipBlanks_eq, hfirst] at hread
      simp [Decoder.optional, hfirst, hne, Decoder.map, hread]

theorem word_head?_ne {word : UInt32} {text : Bytes} (h : Format.word word text) (rest : Bytes) :
    (skipBlanks (text ++ rest)).head? ≠ some 0x6e := by
  obtain ⟨ws, _, hws, rfl, rfl⟩ := h
  obtain ⟨first, digits, hdecimal, hfirst⟩ := (isWhole_decimal word.toNat).exists_cons
  rw [hdecimal, List.append_assoc, List.cons_append,
    skipBlanks_append_cons hws (not_isBlank_of_isDigit hfirst)]
  rintro ⟨⟩
  cases hfirst

namespace Format

theorem Opens.blanks {front : Bytes} (h : Opens true front) : Blanks front := h

/-- What follows an item ends it. -/
theorem Items.ends {format : Format α} {items : List α} {text : Bytes}
    (h : Items format false items text) (rest : Bytes) : Ends (text ++ rest) := by
  cases h with
  | close hws =>
    rw [List.append_assoc]
    exact ends_append_cons hws (by simp) rest
  | item hfront =>
    obtain ⟨ws, ws', hws, -, rfl⟩ := hfront
    rw [List.append_assoc, List.append_assoc, List.cons_append]
    exact ends_append_cons hws (by simp) _

theorem Items.length_le {format : Format α} {isFirst : Bool} {items : List α} {text : Bytes}
    (h : Items format isFirst items text) :
    items.length + (if isFirst then 0 else 1) ≤ text.length := by
  induction h with
  | close => split <;> simp
  | @item isFirst front _ _ _ _ hfront _ _ ih =>
    simp only [Bool.false_eq_true, if_false] at ih
    simp only [List.length_cons, List.length_append]
    cases isFirst with
    | true => simp; omega
    | false =>
      obtain ⟨ws, ws', -, -, rfl⟩ := hfront
      simp
      omega

/-- In front of an item the next one is found. -/
theorem nextItem_append {isFirst : Bool} {front bytes more : Bytes} {first : UInt8}
    (h : Opens isFirst front) (hfirst : skipBlanks bytes = first :: more) (hne : first ≠ 0x5d) :
    Decoder.nextItem isFirst (front ++ bytes) = .ok (some (first :: more)) := by
  cases isFirst with
  | true => simp [Decoder.nextItem, skipBlanks_append h.blanks, hfirst, hne]
  | false =>
    obtain ⟨ws, ws', hws, hws', rfl⟩ := h
    simp [Decoder.nextItem, skipBlanks_append hws, skipBlanks_cons, isBlank,
      skipBlanks_append hws', hfirst, hne]

theorem Items.reads {format : Format α} {read : Decoder α} (h : Reads depth format read)
    {isFirst : Bool} {items : List α} {text : Bytes} (htext : Items format isFirst items text)
    (fuel : Nat) (hfuel : items.length < fuel) {more : Nat} (hmore : depth ≤ more) (rest : Bytes) :
    ∃ ws, Blanks ws ∧ Decoder.items (read more) fuel isFirst (text ++ rest) =
      .ok (items, ws ++ 0x5d :: rest) := by
  induction htext generalizing fuel with
  | @close isFirst ws hws =>
    obtain ⟨fuel, rfl⟩ := Nat.exists_eq_add_one_of_ne_zero (Nat.ne_zero_of_lt hfuel)
    refine ⟨ws, hws, ?_⟩
    simp [Decoder.items, Decoder.nextItem, skipBlanks_append hws, skipBlanks_cons, isBlank]
  | @item isFirst front text others a items hfront ha hothers ih =>
    obtain ⟨fuel, rfl⟩ := Nat.exists_eq_add_one_of_ne_zero (Nat.ne_zero_of_lt hfuel)
    obtain ⟨ws, hws, hitems⟩ := ih fuel (by simpa using hfuel)
    obtain ⟨first, after, hfirst, hne⟩ := h.starts ha (others ++ rest)
    have hread := h.reads ha hmore (hothers.ends rest)
    rw [← h.skipBlanks_eq, hfirst] at hread
    refine ⟨ws, hws, ?_⟩
    rw [List.append_assoc, List.append_assoc, Decoder.items, nextItem_append hfront hfirst hne]
    simp [hread, hitems]

end Format

theorem closing_append {ws : Bytes} (hws : Blanks ws) {close : UInt8}
    (hclose : isBlank close = false) (rest : Bytes) :
    Decoder.closing close (ws ++ close :: rest) = .ok rest := by
  simp [Decoder.closing, skipBlanks_append hws, skipBlanks_cons hclose]

theorem Reads.list {format : Format α} {read : Decoder α} (h : Reads depth format read) :
    Reads (depth + 1) format.list (Decoder.list read) := by
  refine reads_behindBlanks (fun more bytes => ?_) ?_ ?_
  · simp [Decoder.list]
  · rintro items _ ⟨more, -, rfl⟩
    exact ⟨_, _, rfl, rfl, by decide⟩
  · rintro items _ ⟨text, htext, rfl⟩ more rest hmore -
    obtain ⟨more, rfl⟩ : ∃ n, more = n + 1 := ⟨more - 1, by omega⟩
    have hlength := htext.length_le
    obtain ⟨ws, hws, hitems⟩ := htext.reads h ((text ++ rest).length + 1)
      (by simp at hlength ⊢; omega) (by omega : depth ≤ more) rest
    have hclosing := closing_append hws (by rfl : isBlank 0x5d = false) rest
    rw [List.cons_append, Decoder.list, skipBlanks_cons rfl]
    simp only [if_true, Decoder.listAfter, hitems, hclosing, bind, Except.bind, pure, Except.pure]

namespace Format

theorem Members.ends {members : List (String × Bytes)} {text : Bytes}
    (h : Members false members text) (rest : Bytes) : Ends (text ++ rest) := by
  cases h with
  | close hws =>
    rw [List.append_assoc]
    exact ends_append_cons hws (by simp) rest
  | member hfront =>
    obtain ⟨ws, ws', hws, -, rfl⟩ := hfront
    rw [List.append_assoc, List.append_assoc, List.cons_append]
    exact ends_append_cons hws (by simp) _

theorem Members.length_le {isFirst : Bool} {members : List (String × Bytes)} {text : Bytes}
    (h : Members isFirst members text) : members.length ≤ text.length := by
  induction h with
  | close => simp
  | member =>
    simp
    omega

theorem nextName_append {isFirst : Bool} {front body : Bytes} {name : String}
    (hfront : Opens isFirst front) (hbody : Spells name.toList body) (rest : Bytes) :
    Decoder.nextName isFirst (front ++ 0x22 :: (body ++ 0x22 :: rest)) =
      .ok (some (name, rest)) := by
  have hname := stringText_append hbody rest
  rw [String.ofList_toList] at hname
  cases isFirst with
  | true =>
    simp [Decoder.nextName, skipBlanks_append hfront.blanks, skipBlanks_cons, isBlank, hname,
      Except.map]
  | false =>
    obtain ⟨ws, ws', hws, hws', rfl⟩ := hfront
    simp [Decoder.nextName, skipBlanks_append hws, skipBlanks_append hws', skipBlanks_cons, isBlank,
      hname, Except.map]

theorem Members.reads {format : Format α} {read : Decoder α} (h : Reads depth format read)
    {isFirst : Bool} {members : List (String × Bytes)} {text : Bytes}
    (htext : Members isFirst members text) {found : List (String × α)}
    (hfound : List.Forall₂ (fun pair m => pair.1 = m.1 ∧ format pair.2 m.2) found members)
    (fuel : Nat) (hfuel : members.length < fuel) {more : Nat} (hmore : depth ≤ more)
    (rest : Bytes) :
    ∃ ws, Blanks ws ∧ Decoder.members (read more) fuel isFirst (text ++ rest) =
      .ok (found, ws ++ 0x7d :: rest) := by
  induction htext generalizing found fuel with
  | @close isFirst ws hws =>
    obtain ⟨fuel, rfl⟩ := Nat.exists_eq_add_one_of_ne_zero (Nat.ne_zero_of_lt hfuel)
    obtain rfl := List.forall₂_nil_right_iff.1 hfound
    refine ⟨ws, hws, ?_⟩
    simp [Decoder.members, Decoder.nextName, skipBlanks_append hws, skipBlanks_cons, isBlank]
  | @member isFirst front body ws text others name members hfront hbody hws hothers ih =>
    obtain ⟨fuel, rfl⟩ := Nat.exists_eq_add_one_of_ne_zero (Nat.ne_zero_of_lt hfuel)
    obtain ⟨⟨_, a⟩, found, ⟨rfl, ha⟩, hrest, rfl⟩ := List.forall₂_cons_right_iff.1 hfound
    obtain ⟨ws', hws', hmembers⟩ := ih hrest fuel (by simpa using hfuel)
    have hname := nextName_append hfront hbody (ws ++ 0x3a :: (text ++ (others ++ rest)))
    have hcolon := closing_append hws (by rfl : isBlank 0x3a = false) (text ++ (others ++ rest))
    have hread := h.reads ha hmore (hothers.ends rest)
    refine ⟨ws', hws', ?_⟩
    simp only [List.append_assoc, List.cons_append]
    rw [Decoder.members, hname]
    simp [Decoder.colon, hcolon, hread, hmembers, bind, Except.bind, pure, Except.pure]

end Format

theorem Reads.dictionary {format : Format α} {read : Decoder α} (h : Reads depth format read) :
    Reads (depth + 1) format.dictionary (Decoder.dictionary read) := by
  refine reads_behindBlanks (fun more bytes => ?_) ?_ ?_
  · simp [Decoder.dictionary]
  · rintro pairs _ ⟨found, members, more, -, -, -, rfl⟩
    exact ⟨_, _, rfl, rfl, by decide⟩
  · rintro _ _ ⟨found, members, text, rfl, hfound, htext, rfl⟩ more rest hmore -
    obtain ⟨more, rfl⟩ : ∃ n, more = n + 1 := ⟨more - 1, by omega⟩
    have hlength := htext.length_le
    obtain ⟨ws, hws, hmembers⟩ := htext.reads h hfound ((text ++ rest).length + 1)
      (by simp; omega) (by omega : depth ≤ more) rest
    have hclosing := closing_append hws (by rfl : isBlank 0x7d = false) rest
    rw [List.cons_append, Decoder.dictionary, skipBlanks_cons rfl]
    simp [-List.length_append, Decoder.objectAfter, hmembers, hclosing, bind, Except.bind, pure,
      Except.pure, Except.map]

/-! ### Records -/

/-- A field reads a member of the record into a draft that does not have it yet. The draft depends
on the names of the members that have been read. -/
structure Field.Fills (depth : Nat) (a : α) (draft : List String → σ) (field : Field σ)
    (slot : Slot α) : Prop where
  name_eq : field.name = slot.name
  isSet_eq : ∀ names, field.isSet (draft names) = names.contains slot.name
  read_eq : ∀ names {text more rest}, slot.format a text → depth ≤ more → Ends rest →
    field.read (draft names) more (text ++ rest) = .ok (draft (slot.name :: names), rest)

/-- A record is read from its members, with those left out that may be. -/
structure Record.Fills (depth : Nat) (draft : α → List String → σ) (slots : List (Slot α))
    (record : Record σ α) : Prop where
  unknown_eq : record.unknown = .skipped
  blank_eq : ∀ a, record.blank = draft a []
  fields : ∀ a, List.Forall₂ (Field.Fills depth a (draft a)) record.fields slots
  finish_eq : ∀ {a names}, (∀ slot ∈ slots, slot.name ∉ names → slot.mayMiss a) →
    record.finish (draft a names) = some a

/-- A name has a field if the record has such a member. -/
theorem find?_of_forall₂ {a : α} {draft : List String → σ} {fields : List (Field σ)}
    {slots : List (Slot α)} (h : List.Forall₂ (Field.Fills depth a draft) fields slots)
    (name : String) :
    (∃ field, ∃ slot ∈ slots, fields.find? (·.name == name) = some field ∧ slot.name = name ∧
      field.Fills depth a draft slot) ∨
    fields.find? (·.name == name) = none ∧ name ∉ slots.map (·.name) := by
  induction h with
  | nil => exact .inr (by simp)
  | @cons field slot fields slots hfills hrest ih =>
    by_cases hname : slot.name = name
    · refine .inl ⟨field, slot, by simp, ?_, hname, hfills⟩
      simp [hfills.name_eq, hname]
    · have hne : (field.name == name) = false := by simp [hfills.name_eq, hname]
      obtain ⟨field', slot', hmem, hfind, hslot⟩ | ⟨hfind, hnone⟩ := ih
      · exact .inl ⟨field', slot', by simp [hmem], by simp [hne, hfind], hslot⟩
      · exact .inr ⟨by simp [hne, hfind], by simpa [Ne.symm hname] using hnone⟩

variable {record : Record σ α} {slots : List (Slot α)} {draft : α → List String → σ}

/-- The members of an object fill the draft of a record, one after the other. -/
theorem Record.Fills.fillByName_eq (h : record.Fills depth draft slots) {a : α} {isFirst : Bool}
    {members : List (String × Bytes)} {text : Bytes}
    (htext : Format.Members isFirst members text)
    (hknown : ∀ slot ∈ slots, ∀ text, (slot.name, text) ∈ members → slot.format a text)
    (hunknown : ∀ name text, (name, text) ∈ members → name ∉ slots.map (·.name) → IsValue text)
    (names : List String)
    (honce : (names ++ (members.map (·.1)).filter (slots.map (·.name)).contains).Nodup)
    (fuel : Nat) (hfuel : members.length < fuel) {more : Nat} (hmore : depth ≤ more)
    (rest : Bytes) :
    ∃ names' ws, Blanks ws ∧
      record.fillByName more fuel isFirst (draft a names) (text ++ rest) =
        .ok (draft a names', ws ++ 0x7d :: rest) ∧
      ∀ name, name ∈ names ∨ name ∈ slots.map (·.name) ∧ name ∈ members.map (·.1) →
        name ∈ names' := by
  induction htext generalizing names fuel with
  | @close isFirst ws hws =>
    obtain ⟨fuel, rfl⟩ := Nat.exists_eq_add_one_of_ne_zero (Nat.ne_zero_of_lt hfuel)
    refine ⟨names, ws, hws, ?_, by simp⟩
    simp [Record.fillByName, Decoder.nextName, skipBlanks_append hws, skipBlanks_cons, isBlank]
  | @member isFirst front body ws text others name members hfront hbody hws hothers ih =>
    obtain ⟨fuel, rfl⟩ := Nat.exists_eq_add_one_of_ne_zero (Nat.ne_zero_of_lt hfuel)
    have hfewer : members.length < fuel := by simpa using hfuel
    have hknown' := fun slot hslot text hmem => hknown slot hslot text (List.mem_cons_of_mem _ hmem)
    have hunknown' := fun name text hmem => hunknown name text (List.mem_cons_of_mem _ hmem)
    have hcolon := closing_append hws (by rfl : isBlank 0x3a = false) (text ++ (others ++ rest))
    have hname := Format.nextName_append hfront hbody (ws ++ 0x3a :: (text ++ (others ++ rest)))
    simp only [List.append_assoc, List.cons_append]
    rw [Record.fillByName, hname]
    obtain ⟨field, slot, hslot, hfind, rfl, hfills⟩ | ⟨hfind, hnone⟩ :=
      find?_of_forall₂ (h.fields a) name
    · have hmem : slot.name ∈ slots.map (·.name) := List.mem_map_of_mem hslot
      rw [List.map_cons, List.filter_cons_of_pos (by simpa using hmem), List.nodup_middle] at honce
      have hnew : slot.name ∉ names := fun hold =>
        (List.nodup_cons.1 honce).1 (List.mem_append_left _ hold)
      have hread := hfills.read_eq names (hknown slot hslot text (by simp)) hmore
        (hothers.ends rest)
      obtain ⟨names', ws', hws', hfill, hall⟩ :=
        ih hknown' hunknown' (slot.name :: names) honce fuel hfewer
      refine ⟨names', ws', hws', ?_, ?_⟩
      · simp [hfind, hfills.isSet_eq, hnew, Decoder.colon, hcolon, hread, hfill, bind, Except.bind]
      · grind
    · rw [List.map_cons, List.filter_cons_of_neg (by simpa using hnone)] at honce
      have hskip := (hunknown name text (by simp) hnone).skip_eq (hothers.ends rest)
      obtain ⟨names', ws', hws', hfill, hall⟩ := ih hknown' hunknown' names honce fuel hfewer
      refine ⟨names', ws', hws', ?_, ?_⟩
      · simp [hfind, h.unknown_eq, Decoder.colon, hcolon, hskip, hfill, bind, Except.bind]
      · grind

theorem Record.Fills.reads (h : record.Fills depth draft slots) :
    Reads (depth + 1) (Format.record slots) record.decoder := by
  refine reads_behindBlanks (fun more bytes => ?_) ?_ ?_
  · simp [Record.decoder]
  · rintro a _ ⟨members, more, -, -, rfl⟩
    exact ⟨_, _, rfl, rfl, by decide⟩
  · rintro a _ ⟨members, text, hfit, htext, rfl⟩ more rest hmore -
    obtain ⟨more, rfl⟩ : ∃ n, more = n + 1 := ⟨more - 1, by omega⟩
    have hlength := htext.length_le
    obtain ⟨names, ws, hws, hfill, hall⟩ := h.fillByName_eq htext hfit.known hfit.unknown []
      hfit.once ((text ++ rest).length + 1) (by simp; omega) (by omega : depth ≤ more) rest
    have hfinish : record.finish (draft a names) = some a := by
      refine h.finish_eq fun slot hslot hname => hfit.missing slot hslot fun hmem => hname ?_
      exact hall slot.name (.inr ⟨List.mem_map_of_mem hslot, hmem⟩)
    have hclosing := closing_append hws (by rfl : isBlank 0x7d = false) rest
    rw [List.cons_append, Record.decoder, skipBlanks_cons rfl]
    simp [-List.length_append, h.blank_eq a, hfill, Record.conclude, hfinish, hclosing, bind,
      Except.bind, pure, Except.pure]

/-- What a draft holds of a member, once its name has been read. -/
def given (name : String) (names : List String) (a : α) : Option α :=
  if names.contains name then some a else none

/-- A member that may not be left out is there. -/
theorem given_eq_some {name : String} {names : List String} (h : name ∉ names → False) (a : α) :
    given name names a = some a := by
  simp [given, Decidable.not_not.1 h]

/-- A member that has been left out has the value that counts then. -/
theorem getD_given {name : String} {names : List String} {a standard : α}
    (h : name ∉ names → a = standard) : (given name names a).getD standard = a := by
  by_cases hname : name ∈ names
  · simp [given, hname]
  · simp [given, hname, h hname]

section

variable {τ : Type} {a : α} {draft : List String → σ} {name : String} {get : σ → Option τ}
  {set : τ → σ → σ} {proj : α → τ} {format : Format τ} {read : Decoder τ}

theorem Field.required_fills (hreads : Reads depth format read)
    (hget : ∀ names, get (draft names) = given name names (proj a))
    (hset : ∀ names, set (proj a) (draft names) = draft (name :: names)) :
    (Field.required name get set read).Fills depth a draft (.required name proj format) where
  name_eq := rfl
  isSet_eq names := by
    change (get (draft names)).isSome = names.contains name
    rw [hget, given]
    split <;> simp_all
  read_eq names text more rest htext hmore hends := by
    simp [Field.required, Slot.required, Decoder.map, hreads.reads htext hmore hends, hset]

theorem Field.defaulted_fills {standard : τ} (hreads : Reads depth format read)
    (hget : ∀ names, get (draft names) = given name names (proj a))
    (hset : ∀ names, set (proj a) (draft names) = draft (name :: names)) :
    (Field.defaulted name get set read).Fills depth a draft
      (.defaulted name proj format standard) :=
  let h := Field.required_fills hreads hget hset
  ⟨h.name_eq, h.isSet_eq, h.read_eq⟩

end

/-- The same members, with something made of what they give. -/
def Record.map (f : α → β) (record : Record σ α) : Record σ β where
  fields := record.fields
  unknown := record.unknown
  blank := record.blank
  finish draft := (record.finish draft).map f

theorem Record.fillByName_map (f : α → β) (record : Record σ α) (depth fuel : Nat)
    (isFirst : Bool) (draft : σ) (bytes : Bytes) :
    (record.map f).fillByName depth fuel isFirst draft bytes =
      record.fillByName depth fuel isFirst draft bytes := by
  induction fuel generalizing isFirst draft bytes with
  | zero => rfl
  | succ fuel ih =>
    have hfields : (record.map f).fields = record.fields := rfl
    have hunknown : (record.map f).unknown = record.unknown := rfl
    simp only [Record.fillByName, ih, hfields, hunknown]

theorem Record.conclude_map (f : α → β) (record : Record σ α) (draft : σ) :
    (record.map f).conclude draft = (record.conclude draft).map f := by
  cases h : record.finish draft <;> simp [Record.conclude, Record.map, h, Except.map]

/-- What is behind the members: the record is concluded and the bracket closed. -/
def Record.ending (record : Record σ α) (close : UInt8) (filled : σ × Bytes) :
    Except Fault (α × Bytes) := do
  let a ← record.conclude filled.1
  let rest ← Decoder.closing close filled.2
  return (a, rest)

theorem Record.bind_ending_map (f : α → β) (record : Record σ α) (close : UInt8)
    (filled : Except Fault (σ × Bytes)) :
    filled.bind ((record.map f).ending close) =
      (filled.bind (record.ending close)).map (Prod.map f id) := by
  cases filled with
  | error fault => rfl
  | ok filled =>
    simp only [Except.bind, Record.ending, conclude_map, bind]
    cases record.conclude filled.1 with
    | error fault => rfl
    | ok a => cases Decoder.closing close filled.2 <;> rfl

theorem Decoder.map_apply (f : α → β) (read : Decoder α) (depth : Nat) (bytes : Bytes) :
    read.map f depth bytes = (read depth bytes).map (Prod.map f id) := by
  unfold Decoder.map
  cases read depth bytes <;> rfl

/-- What is made of a record is made of what is read. -/
theorem Record.decoder_map (f : α → β) (record : Record σ α) :
    (record.map f).decoder = record.decoder.map f := by
  have hfields : (record.map f).fields = record.fields := rfl
  have hblank : (record.map f).blank = record.blank := rfl
  funext depth bytes
  rw [Decoder.map_apply]
  unfold Record.decoder
  dsimp only
  rw [hfields, hblank]
  cases skipBlanks bytes with
  | nil => rfl
  | cons first rest =>
    dsimp only
    cases depth with
    | zero => split_ifs <;> rfl
    | succ depth =>
      dsimp only
      rw [Record.fillByName_map]
      split_ifs
      · exact record.bind_ending_map f 0x5d _
      · exact record.bind_ending_map f 0x7d _
      · rfl

theorem Decoder.run_map (f : α → β) (read : Decoder α) (bytes : Bytes) :
    (read.map f).run bytes = (read.run bytes).map f := by
  unfold Decoder.run Decoder.map
  cases read maxDepth bytes with
  | error fault => rfl
  | ok found => cases h : skipBlanks found.2 <;> simp [Except.map, h]

/-! ### The writer -/

@[simp] theorem toList_render (value : Value) : value.render.toList = value.chars :=
  String.toList_ofList

theorem encode_escape_control : ∀ n : Fin 32,
    ∃ a b c d, Utf8.encode ('\\' :: 'u' :: Text.hexDigits 4 n) = [0x5c, 0x75, a, b, c, d] ∧
      hex4? a b c d = some n.val := by
  have : ∀ n : Fin 32,
      let digit (k : Nat) : UInt8 := .ofNat (Nat.digitChar k).toNat
      Utf8.encode ('\\' :: 'u' :: Text.hexDigits 4 n) =
        [0x5c, 0x75, 0x30, 0x30, digit (n / 16), digit (n % 16)] ∧
      hex4? 0x30 0x30 (digit (n / 16)) (digit (n % 16)) = some n.val := by
    decide +kernel
  exact fun n => ⟨_, _, _, _, this n⟩

/-- What is written for a character spells it. -/
theorem spells_cons_escape (c : Char) {text : List Char} {body : Bytes} (h : Spells text body) :
    Spells (c :: text) (Utf8.encode (escape c) ++ body) := by
  unfold escape
  split
  next hc => subst hc; exact .letter (by rfl : letterEscape? 0x22 = some 0x22) h
  split
  next hc => subst hc; exact .letter (by rfl : letterEscape? 0x5c = some 0x5c) h
  split
  next hc => subst hc; exact .letter (by rfl : letterEscape? 0x62 = some 0x08) h
  split
  next hc => subst hc; exact .letter (by rfl : letterEscape? 0x66 = some 0x0c) h
  split
  next hc => subst hc; exact .letter (by rfl : letterEscape? 0x6e = some 0x0a) h
  split
  next hc => subst hc; exact .letter (by rfl : letterEscape? 0x72 = some 0x0d) h
  split
  next hc => subst hc; exact .letter (by rfl : letterEscape? 0x74 = some 0x09) h
  split
  next hcontrol =>
    obtain ⟨x, y, z, w, hencode, hunit⟩ := encode_escape_control ⟨c.toNat, hcontrol⟩
    have hlow : isLowSurrogate c.toNat = false := by simp [isLowSurrogate]; omega
    have hhigh : isHighSurrogate c.toNat = false := by simp [isHighSurrogate]; omega
    have := Spells.unit hunit hlow hhigh h
    rw [Char.ofNat_toNat] at this
    rw [hencode]
    exact this
  next hquote hslash _ _ _ _ _ hcontrol =>
    simpa using .plain hquote hslash (by omega) h

/-- So does what is written of a text. -/
theorem spells_escape (text : List Char) : Spells text (Utf8.encode (text.flatMap escape)) := by
  induction text with
  | nil => exact .nil
  | cons c text ih =>
    rw [List.flatMap_cons, Utf8.encode_append]
    exact spells_cons_escape c ih

/-- A text without control characters, and so without a line break. -/
def NoControl (text : List Char) : Prop :=
  ∀ c ∈ text, 0x20 ≤ c.toNat

@[simp] theorem noControl_append {a b : List Char} :
    NoControl (a ++ b) ↔ NoControl a ∧ NoControl b := by
  simp [NoControl, or_imp, forall_and]

@[simp] theorem noControl_cons {c : Char} {text : List Char} :
    NoControl (c :: text) ↔ 0x20 ≤ c.toNat ∧ NoControl text := by
  simp [NoControl]

instance (text : List Char) : Decidable (NoControl text) :=
  decidable_of_iff (text.all fun c => 0x20 ≤ c.toNat) (by simp [NoControl])

/-- Control characters are escaped. -/
theorem noControl_escape (c : Char) : NoControl (escape c) := by
  by_cases hc : c.toNat < 32
  · have hcontrol : ∀ n : Fin 32, NoControl (escape (.ofNat n)) := by decide +kernel
    simpa using hcontrol ⟨c.toNat, hc⟩
  · have hplain : NoControl [c] := by simpa [NoControl] using hc
    unfold escape
    split_ifs
    all_goals first | exact hplain | decide

theorem noControl_quote (s : String) : NoControl (quote s) := by
  have hbody : NoControl (s.toList.flatMap escape) := fun c hc =>
    let ⟨d, _, hd⟩ := List.mem_flatMap.1 hc
    noControl_escape d c hd
  have hquote : NoControl ['"'] := by decide
  exact noControl_cons.2 ⟨by decide, noControl_append.2 ⟨hbody, hquote⟩⟩

theorem noControl_toDigits (n : Nat) : NoControl (Nat.toDigits 10 n) := by
  intro c hc
  have hdigit := Nat.isDigit_of_mem_toDigits (by decide) (by decide) hc
  have : 0x30 ≤ c.toNat := (Char.isDigit_iff_toNat.1 hdigit).1
  omega

/-- The members of an object, with a comma between any two. -/
theorem memberChars_eq (members : List (String × Value)) :
    memberChars members =
      [','].intercalate (members.map fun m => quote m.1 ++ ':' :: m.2.chars) ++ ['\x7d'] := by
  induction members with
  | nil => rfl
  | cons m members ih =>
    cases members with
    | nil => simp [memberChars, List.intercalate]
    | cons m' members =>
      rw [memberChars.eq_3 _ _ _ (by simp), ih]
      simp [List.intercalate]

theorem noControl_memberChars {members : List (String × Value)}
    (h : ∀ m ∈ members, NoControl m.2.chars) : NoControl (memberChars members) := by
  induction members with
  | nil => decide
  | cons m members ih =>
    obtain ⟨hm, hmembers⟩ := List.forall_mem_cons.1 h
    have hmember : NoControl (quote m.1 ++ ':' :: m.2.chars) :=
      noControl_append.2 ⟨noControl_quote m.1, noControl_cons.2 ⟨by decide, hm⟩⟩
    cases members with
    | nil => exact noControl_append.2 ⟨hmember, by decide⟩
    | cons m' members =>
      rw [memberChars.eq_3 _ _ _ (by simp)]
      exact noControl_append.2 ⟨hmember, noControl_cons.2 ⟨by decide, ih hmembers⟩⟩

namespace Format

variable {format : Format α} {write : α → Value}

theorem word_chars (w : UInt32) : word w (Utf8.encode (ofWord w).chars) :=
  behindBlanks_of rfl

theorem encode_quote (s : String) :
    Utf8.encode (quote s) = 0x22 :: (Utf8.encode (s.toList.flatMap escape) ++ [0x22]) := by
  rw [quote, Utf8.encode_append]
  rfl

theorem text_chars (s : String) : text s (Utf8.encode (Value.text s).chars) :=
  behindBlanks_of ⟨_, spells_escape s.toList, encode_quote s⟩

theorem optional_chars (h : ∀ a, format a (Utf8.encode (write a).chars)) (o : Option α) :
    format.optional o (Utf8.encode (ofOption write o).chars) := by
  cases o with
  | none => exact ⟨[], _, blanks_nil, rfl, rfl⟩
  | some a => exact h a

theorem Opens.behindComma {front : Bytes} (h : Opens true front) : Opens false (0x2c :: front) :=
  ⟨[], front, blanks_nil, h, rfl⟩

/-- Behind a comma the items go on. -/
theorem Items.behindComma {a : α} {items : List α} {text : Bytes}
    (h : Items format true (a :: items) text) : Items format false (a :: items) (0x2c :: text) := by
  cases h with
  | item hfront ha hmore => exact .item hfront.behindComma ha hmore

theorem Members.behindComma {m : String × Bytes} {members : List (String × Bytes)} {text : Bytes}
    (h : Members true (m :: members) text) : Members false (m :: members) (0x2c :: text) := by
  cases h with
  | member hfront hbody hws hmore => exact .member hfront.behindComma hbody hws hmore

/-- What is written of values spells the items that they stand for. -/
theorem items_chars {items : List α} {values : List Value}
    (h : List.Forall₂ (fun a value => format a (Utf8.encode value.chars)) items values) :
    Items format true items (Utf8.encode (itemChars values)) := by
  induction h with
  | nil => exact .close blanks_nil
  | @cons a value items values ha hrest ih =>
    have first {more : List Char} (hmore : Items format false items (Utf8.encode more)) :
        Items format true (a :: items) (Utf8.encode (value.chars ++ more)) := by
      rw [Utf8.encode_append]
      exact .item (show Opens true [] from blanks_nil) ha hmore
    cases hrest with
    | nil => exact first (show Items format false [] [0x5d] from .close blanks_nil)
    | cons => exact first ih.behindComma

theorem list_chars {items : List α} {values : List Value}
    (h : List.Forall₂ (fun a value => format a (Utf8.encode value.chars)) items values) :
    format.list items (Utf8.encode (Value.list values).chars) :=
  behindBlanks_of ⟨_, items_chars h, rfl⟩

theorem list_map_chars (h : ∀ a, format a (Utf8.encode (write a).chars)) (items : List α) :
    format.list items (Utf8.encode (Value.list (items.map write)).chars) :=
  list_chars (List.forall₂_map_right_iff.2 (List.forall₂_same.2 fun a _ => h a))

theorem members_chars (members : List (String × Value)) :
    Members true (members.map fun m => (m.1, Utf8.encode m.2.chars))
      (Utf8.encode (memberChars members)) := by
  induction members with
  | nil => exact .close blanks_nil
  | cons m members ih =>
    have first {more : List Char}
        (hmore : Members false (members.map fun m => (m.1, Utf8.encode m.2.chars))
          (Utf8.encode more)) :
        Members true ((m.1, Utf8.encode m.2.chars) ::
          members.map fun m => (m.1, Utf8.encode m.2.chars))
          (Utf8.encode (quote m.1 ++ ':' :: m.2.chars ++ more)) := by
      rw [List.append_assoc, Utf8.encode_append, encode_quote, List.cons_append, List.cons_append,
        Utf8.encode_cons, Utf8.encode_append, List.append_assoc]
      exact .member (show Opens true [] from blanks_nil) (spells_escape m.1.toList) blanks_nil hmore
    cases members with
    | nil => exact first (show Members false [] [0x7d] from .close blanks_nil)
    | cons => exact first ih.behindComma

/-- What is written of pairs spells them, if their names increase. -/
theorem dictionary_chars (h : ∀ a, format a (Utf8.encode (write a).chars))
    {pairs : List (String × α)} (hpairs : Sorted.Increasing pairs) :
    format.dictionary pairs
      (Utf8.encode (Value.object (pairs.map fun (name, a) => (name, write a))).chars) := by
  refine behindBlanks_of ⟨pairs, _, _, Sorted.ofList_eq_self hpairs, ?_, members_chars _, rfl⟩
  rw [List.map_map]
  exact List.forall₂_map_right_iff.2 (List.forall₂_same.2 fun pair _ => ⟨rfl, h pair.2⟩)

theorem choice_chars {names : List (String × α)} {name : String} {a : α}
    (h : names.find? (·.1 == name) = some (name, a)) :
    choice names a (Utf8.encode (Value.text name).chars) :=
  behindBlanks_of ⟨name, _, h, spells_escape name.toList, encode_quote name⟩

/-- What is written of an object spells a record, if its members do. -/
theorem record_chars {slots : List (Slot α)} {a : α} {members : List (String × Value)}
    (h : Slot.Fit slots a (members.map fun m => (m.1, Utf8.encode m.2.chars))) :
    Format.record slots a (Utf8.encode (Value.object members).chars) :=
  behindBlanks_of ⟨_, _, h, members_chars members, rfl⟩

end Format

end BoardDebug.Json
