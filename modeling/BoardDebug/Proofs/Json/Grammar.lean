import BoardDebug.Json.Lexical
import BoardDebug.Proofs.Text.Utf8

namespace BoardDebug.Json

/-- Bytes that nobody reads. -/
def Blanks (bytes : Bytes) : Prop :=
  ∀ byte ∈ bytes, isBlank byte = true

/-- What may come behind a value: nothing, a blank, or what ends an item or a member. -/
def Ends (rest : Bytes) : Prop :=
  ∀ byte ∈ rest.head?, isBlank byte = true ∨ byte = 0x2c ∨ byte = 0x5d ∨ byte = 0x7d

@[simp] theorem skipBlanks_append {ws : Bytes} (h : Blanks ws) (rest : Bytes) :
    skipBlanks (ws ++ rest) = skipBlanks rest := by
  induction ws with
  | nil => rfl
  | cons byte ws ih =>
    obtain ⟨hbyte, hws⟩ := List.forall_mem_cons.1 h
    rw [← ih hws]
    simp [skipBlanks, hbyte]

theorem skipBlanks_cons {byte : UInt8} (h : isBlank byte = false) (rest : Bytes) :
    skipBlanks (byte :: rest) = byte :: rest := by
  simp [skipBlanks, h]

/-- A byte that is no blank is found behind blanks. -/
theorem skipBlanks_append_cons {ws : Bytes} {byte : UInt8} (hws : Blanks ws)
    (h : isBlank byte = false) (rest : Bytes) : skipBlanks (ws ++ byte :: rest) = byte :: rest := by
  rw [skipBlanks_append hws, skipBlanks_cons h]

@[simp] theorem skipBlanks_skipBlanks (bytes : Bytes) :
    skipBlanks (skipBlanks bytes) = skipBlanks bytes := by
  induction bytes with
  | nil => rfl
  | cons byte rest ih =>
    cases hbyte : isBlank byte with
    | true => simpa [skipBlanks, hbyte] using ih
    | false => rw [skipBlanks_cons hbyte, skipBlanks_cons hbyte]

theorem blanks_nil : Blanks [] := by
  simp [Blanks]

theorem ends_append_cons {ws : Bytes} {byte : UInt8} (hws : Blanks ws)
    (h : byte = 0x2c ∨ byte = 0x5d ∨ byte = 0x7d) (rest : Bytes) : Ends (ws ++ byte :: rest) := by
  cases ws with
  | nil => simpa [Ends] using .inr h
  | cons blank ws => simpa [Ends] using .inl (hws blank (by simp))

theorem ends_of_blanks {ws : Bytes} (h : Blanks ws) : Ends ws := by
  intro byte hbyte
  exact .inl (h byte (List.mem_of_mem_head? hbyte))

/-! ### Numbers -/

/-- The digits in front of the point: a zero, or digits that do not start with one. -/
inductive IsWhole : Bytes → Prop where
  | zero : IsWhole [0x30]
  | digits {first : UInt8} {more : Bytes} : isDigit first = true → first ≠ 0x30 →
      (∀ digit ∈ more, isDigit digit = true) → IsWhole (first :: more)

/-- The digits behind the point, if there is one. -/
inductive IsFraction : Bytes → Prop where
  | none : IsFraction []
  | point {digits : Bytes} : digits ≠ [] → (∀ digit ∈ digits, isDigit digit = true) →
      IsFraction (0x2e :: digits)

/-- A power of ten, if there is one. -/
inductive IsPower : Bytes → Prop where
  | none : IsPower []
  | power {e : UInt8} {sign digits : Bytes} : e = 0x65 ∨ e = 0x45 →
      sign = [] ∨ sign = [0x2b] ∨ sign = [0x2d] → digits ≠ [] →
      (∀ digit ∈ digits, isDigit digit = true) → IsPower (e :: (sign ++ digits))

theorem Ends.not_isDigit {rest : Bytes} (h : Ends rest) :
    ∀ byte ∈ rest.head?, isDigit byte = false := by
  intro byte hbyte
  obtain hblank | rfl | rfl | rfl := h byte hbyte
  · simp only [isBlank, Bool.or_eq_true, beq_iff_eq] at hblank
    obtain ((rfl | rfl) | rfl) | rfl := hblank <;> rfl
  all_goals rfl

theorem wholeDigits_append {whole rest : Bytes} (h : IsWhole whole)
    (hrest : ∀ byte ∈ rest.head?, isDigit byte = false) :
    wholeDigits (whole ++ rest) = .ok (whole, rest) := by
  cases h with
  | zero =>
    cases rest with
    | nil => rfl
    | cons byte rest => simp [wholeDigits, hrest byte rfl]
  | digits hfirst hzero hmore =>
    simp only [wholeDigits, List.cons_append, if_neg hzero, hfirst, if_true,
      Text.span_append hmore hrest]

theorem fractionDigits_append {fraction rest : Bytes} (h : IsFraction fraction)
    (hdigit : ∀ byte ∈ rest.head?, isDigit byte = false)
    (hpoint : ∀ byte ∈ rest.head?, byte ≠ 0x2e) :
    fractionDigits (fraction ++ rest) = .ok (fraction.tail, rest) := by
  cases h with
  | none =>
    cases rest with
    | nil => rfl
    | cons byte rest =>
      have hbyte : byte ≠ 0x2e := hpoint byte rfl
      simp [fractionDigits, hbyte]
  | @point digits hne hdigits =>
    obtain ⟨first, more, rfl⟩ := List.exists_cons_of_ne_nil hne
    simp only [fractionDigits, List.cons_append, List.tail_cons]
    rw [← List.cons_append, Text.span_append hdigits hdigit]

theorem Ends.head_ne {rest : Bytes} (h : Ends rest) {letter : UInt8}
    (hletter : letter = 0x2e ∨ letter = 0x65 ∨ letter = 0x45) :
    ∀ byte ∈ rest.head?, byte ≠ letter := by
  rintro byte hbyte rfl
  have := h byte hbyte
  obtain rfl | rfl | rfl := hletter <;> simp [isBlank] at this

theorem exponentPart_append {power rest : Bytes} (h : IsPower power) (hends : Ends rest) :
    ∃ exponent, exponentPart (power ++ rest) = .ok (exponent, rest) := by
  cases h with
  | none =>
    cases rest with
    | nil => exact ⟨_, rfl⟩
    | cons byte rest =>
      have hlow : byte ≠ 0x65 := hends.head_ne (by simp) byte rfl
      have hhigh : byte ≠ 0x45 := hends.head_ne (by simp) byte rfl
      exact ⟨none, by simp [exponentPart, hlow, hhigh]⟩
  | @power e sign digits he hsign hne hdigits =>
    obtain ⟨first, more, rfl⟩ := List.exists_cons_of_ne_nil hne
    have hspan := Text.span_append hdigits hends.not_isDigit
    obtain rfl | rfl | rfl := hsign
    · have hfirst : isDigit first = true := hdigits first (by simp)
      have hplus : first ≠ 0x2b := by rintro rfl; cases hfirst
      have hminus : first ≠ 0x2d := by rintro rfl; cases hfirst
      refine ⟨some (1 * digitsValue (first :: more)), ?_⟩
      simp only [exponentPart, List.cons_append, List.nil_append, if_pos he] at hspan ⊢
      split
      next heq => exact absurd (List.cons.inj heq).1 hplus
      next heq => exact absurd (List.cons.inj heq).1 hminus
      next => rw [hspan]
    · refine ⟨some (1 * digitsValue (first :: more)), ?_⟩
      simp only [exponentPart, List.cons_append, List.nil_append, if_pos he] at hspan ⊢
      rw [hspan]
    · refine ⟨some (-1 * digitsValue (first :: more)), ?_⟩
      simp only [exponentPart, List.cons_append, List.nil_append, if_pos he] at hspan ⊢
      rw [hspan]

/-- A number, without its sign. -/
def IsNumber (text : Bytes) : Prop :=
  ∃ whole fraction power, IsWhole whole ∧ IsFraction fraction ∧ IsPower power ∧
    text = whole ++ (fraction ++ power)

theorem skipNumber_append {text rest : Bytes} (h : IsNumber text) (hends : Ends rest) :
    skipNumber (text ++ rest) = .ok rest := by
  obtain ⟨whole, fraction, power, hwhole, hfraction, hpower, rfl⟩ := h
  have hpoint : ∀ byte ∈ (power ++ rest).head?, isDigit byte = false ∧ byte ≠ 0x2e := by
    intro byte hbyte
    cases hpower with
    | none => exact ⟨hends.not_isDigit byte hbyte, hends.head_ne (by simp) byte hbyte⟩
    | power he =>
      cases hbyte
      obtain rfl | rfl := he <;> exact ⟨rfl, by decide⟩
  have hdigit : ∀ byte ∈ (fraction ++ (power ++ rest)).head?, isDigit byte = false := by
    intro byte hbyte
    cases hfraction with
    | none => exact (hpoint byte hbyte).1
    | point => cases hbyte; rfl
  obtain ⟨exponent, hexponent⟩ := exponentPart_append hpower hends
  simp only [skipNumber, List.append_assoc, wholeDigits_append hwhole hdigit,
    fractionDigits_append hfraction (fun byte h => (hpoint byte h).1)
      fun byte h => (hpoint byte h).2,
    hexponent]

/-! ### Texts -/

/-- The inside of quotes, of which only the shape is looked at. -/
inductive IsQuoted : Bytes → Prop where
  | nil : IsQuoted []
  | plain {byte : UInt8} {more : Bytes} : byte ≠ 0x22 → byte ≠ 0x5c → ¬byte < 0x20 →
      IsQuoted more → IsQuoted (byte :: more)
  | letter {letter : UInt8} {more : Bytes} : (letterEscape? letter).isSome = true →
      IsQuoted more → IsQuoted (0x5c :: letter :: more)
  | unit {a b c d : UInt8} {more : Bytes} : (hex4? a b c d).isSome = true →
      IsQuoted more → IsQuoted (0x5c :: 0x75 :: a :: b :: c :: d :: more)

theorem skipString_append {text : Bytes} (h : IsQuoted text) (rest : Bytes) :
    skipString (text ++ 0x22 :: rest) = .ok rest := by
  induction h with
  | nil => rw [List.nil_append, skipString.eq_def]; simp
  | plain hquote hslash hcontrol _ ih =>
    rw [List.cons_append, skipString.eq_def]
    simp only [if_neg hquote, if_neg hslash, if_neg hcontrol, ih]
  | letter hletter _ ih =>
    rw [List.cons_append, skipString.eq_def]
    simp [hletter, ih]
  | unit hunit _ ih =>
    rw [List.cons_append, skipString.eq_def]
    simp [letterEscape?, hunit, ih]

/-- The inside of quotes as it spells some characters: they stand for themselves, or are escaped
by a letter, by their number, or by the numbers of two surrogates. -/
inductive Spells : List Char → Bytes → Prop where
  | nil : Spells [] []
  | plain {c : Char} {text : List Char} {more : Bytes} : c ≠ '"' → c ≠ '\\' → 0x20 ≤ c.toNat →
      Spells text more → Spells (c :: text) (String.utf8EncodeChar c ++ more)
  | letter {letter byte : UInt8} {text : List Char} {more : Bytes} :
      letterEscape? letter = some byte → Spells text more →
      Spells (.ofNat byte.toNat :: text) (0x5c :: letter :: more)
  | unit {a b c d : UInt8} {unit : Nat} {text : List Char} {more : Bytes} :
      hex4? a b c d = some unit → isLowSurrogate unit = false → isHighSurrogate unit = false →
      Spells text more → Spells (.ofNat unit :: text) (0x5c :: 0x75 :: a :: b :: c :: d :: more)
  | pair {a b c d e f g h : UInt8} {high low : Nat} {text : List Char} {more : Bytes} :
      hex4? a b c d = some high → isHighSurrogate high = true →
      hex4? e f g h = some low → isLowSurrogate low = true → Spells text more →
      Spells (.ofNat (pairCode high low) :: text)
        (0x5c :: 0x75 :: a :: b :: c :: d :: 0x5c :: 0x75 :: e :: f :: g :: h :: more)

theorem not_isLowSurrogate {unit : Nat} (h : isHighSurrogate unit = true) :
    isLowSurrogate unit = false := by
  simp only [isHighSurrogate, isLowSurrogate, Bool.and_eq_true, decide_eq_true_eq,
    Bool.and_eq_false_iff, decide_eq_false_iff_not] at h ⊢
  omega

theorem prepend_append (a b : Bytes) (read : Read Bytes) :
    prepend (a ++ b) read = prepend a (prepend b read) := by
  cases read <;> simp [prepend]

/-- Bytes without a special meaning are taken as they are. -/
theorem stringBody_append_of_plain {bytes : Bytes}
    (h : ∀ byte ∈ bytes, byte ≠ 0x22 ∧ byte ≠ 0x5c ∧ ¬byte < 0x20) (rest : Bytes) :
    stringBody (bytes ++ rest) = prepend bytes (stringBody rest) := by
  induction bytes with
  | nil => cases hrest : stringBody rest <;> simp [hrest, prepend]
  | cons byte bytes ih =>
    obtain ⟨⟨hquote, hslash, hcontrol⟩, hbytes⟩ := List.forall_mem_cons.1 h
    rw [List.cons_append, stringBody.eq_def]
    simp only [if_neg hquote, if_neg hslash, if_neg hcontrol, ih hbytes]
    exact (prepend_append [byte] bytes _).symm

/-- So are the bytes of a character that is not escaped. -/
theorem stringBody_encodeChar {c : Char} (hquote : c ≠ '"') (hslash : c ≠ '\\')
    (hcontrol : 0x20 ≤ c.toNat) (rest : Bytes) :
    stringBody (String.utf8EncodeChar c ++ rest) =
      prepend (String.utf8EncodeChar c) (stringBody rest) := by
  refine stringBody_append_of_plain (fun byte hbyte => ?_) rest
  have hchar : c.toNat ≠ 0x22 ∧ c.toNat ≠ 0x5c :=
    ⟨fun h => hquote (Char.toNat_inj.1 h), fun h => hslash (Char.toNat_inj.1 h)⟩
  have hmem := Utf8.mem_encodeChar hbyte
  simp only [ne_eq, ← UInt8.toNat_inj, UInt8.lt_iff_toNat_lt, UInt8.toNat_ofNat]
  omega

theorem encodeChar_of_letterEscape? {letter byte : UInt8} (h : letterEscape? letter = some byte) :
    String.utf8EncodeChar (.ofNat byte.toNat) = [byte] := by
  unfold letterEscape? at h
  split at h <;> cases h <;> rfl

theorem stringBody_append {text : List Char} {body : Bytes} (h : Spells text body) (rest : Bytes) :
    stringBody (body ++ 0x22 :: rest) = .ok (Utf8.encode text, rest) := by
  induction h with
  | nil => rw [List.nil_append, stringBody.eq_def]; simp
  | plain hquote hslash hcontrol _ ih =>
    rw [List.append_assoc, stringBody_encodeChar hquote hslash hcontrol, ih]
    simp [prepend]
  | letter hletter _ ih =>
    rw [List.cons_append, stringBody.eq_def]
    simp [hletter, ih, prepend, encodeChar_of_letterEscape? hletter]
  | unit hunit hlow hhigh _ ih =>
    simp [stringBody, letterEscape?, hunit, hlow, hhigh, ih, prepend, codeBytes]
  | pair hhigh hishigh hlow hislow _ ih =>
    simp [stringBody, letterEscape?, hhigh, hishigh, hlow, hislow, not_isLowSurrogate hishigh, ih,
      prepend, codeBytes]

theorem stringText_append {text : List Char} {body : Bytes} (h : Spells text body) (rest : Bytes) :
    stringText (body ++ 0x22 :: rest) = .ok (String.ofList text, rest) := by
  simp [stringText, stringBody_append h]

/-! ### Values -/

/-- What a piece of a text is. Items and members go up to the bracket that closes them. -/
inductive Part where
  | value
  | items
  | members

/-- The texts of any values, however deep, with blanks wherever they may stand. Numbers may be of
any size, and the texts in quotes need not be texts of characters. -/
inductive IsJson : Part → Bytes → Prop where
  | blank {byte : UInt8} {text : Bytes} : isBlank byte = true → IsJson .value text →
      IsJson .value (byte :: text)
  | null : IsJson .value (0x6e :: ull)
  | yes : IsJson .value (0x74 :: rue)
  | no : IsJson .value (0x66 :: alse)
  | number {text : Bytes} : IsNumber text → IsJson .value text
  | negative {text : Bytes} : IsNumber text → IsJson .value (0x2d :: text)
  | text {text : Bytes} : IsQuoted text → IsJson .value (0x22 :: (text ++ [0x22]))
  | emptyList {ws : Bytes} : Blanks ws → IsJson .value (0x5b :: (ws ++ [0x5d]))
  | list {items : Bytes} : IsJson .items items → IsJson .value (0x5b :: items)
  | emptyObject {ws : Bytes} : Blanks ws → IsJson .value (0x7b :: (ws ++ [0x7d]))
  | object {members : Bytes} : IsJson .members members → IsJson .value (0x7b :: members)
  | lastItem {item ws : Bytes} : IsJson .value item → Blanks ws →
      IsJson .items (item ++ (ws ++ [0x5d]))
  | nextItem {item ws more : Bytes} : IsJson .value item → Blanks ws → IsJson .items more →
      IsJson .items (item ++ (ws ++ 0x2c :: more))
  | lastMember {ws name ws' value ws'' : Bytes} : Blanks ws → IsQuoted name → Blanks ws' →
      IsJson .value value → Blanks ws'' →
      IsJson .members (ws ++ 0x22 :: (name ++ 0x22 :: (ws' ++ 0x3a :: (value ++ (ws'' ++ [0x7d])))))
  | nextMember {ws name ws' value ws'' more : Bytes} : Blanks ws → IsQuoted name → Blanks ws' →
      IsJson .value value → Blanks ws'' → IsJson .members more →
      IsJson .members
        (ws ++ 0x22 :: (name ++ 0x22 :: (ws' ++ 0x3a :: (value ++ (ws'' ++ 0x2c :: more)))))

/-- A text of any value. -/
abbrev IsValue (text : Bytes) : Prop :=
  IsJson .value text

/-- How many steps are enough to pass over a piece. -/
def Part.steps (part : Part) (text : Bytes) : Nat :=
  match part with
  | value => 2 * text.length
  | _ => 2 * text.length + 1

theorem keyword_append (word rest : Bytes) : keyword word (word ++ rest) = .ok rest := by
  induction word with
  | nil => rfl
  | cons byte word ih => simp [keyword, ih]

/-- A number begins with a digit. -/
theorem IsWhole.exists_cons {whole : Bytes} (h : IsWhole whole) :
    ∃ first more, whole = first :: more ∧ isDigit first = true := by
  cases h with
  | zero => exact ⟨_, _, rfl, rfl⟩
  | digits hfirst => exact ⟨_, _, rfl, hfirst⟩

theorem IsNumber.exists_cons {text : Bytes} (h : IsNumber text) :
    ∃ first more, text = first :: more ∧ isDigit first = true := by
  obtain ⟨whole, fraction, power, hwhole, -, -, rfl⟩ := h
  obtain ⟨first, more, rfl, hfirst⟩ := hwhole.exists_cons
  exact ⟨first, more ++ (fraction ++ power), rfl, hfirst⟩

theorem not_isBlank_of_isDigit {byte : UInt8} (h : isDigit byte = true) : isBlank byte = false := by
  simp only [isDigit, Bool.and_eq_true, decide_eq_true_eq, UInt8.le_iff_toNat_le] at h
  simp only [isBlank, Bool.or_eq_false_iff, beq_eq_false_iff_ne, ne_eq, ← UInt8.toNat_inj]
  simp only [UInt8.toNat_ofNat] at h ⊢
  omega

theorem skipBlanks_blank {byte : UInt8} (h : isBlank byte = true) (rest : Bytes) :
    skipBlanks (byte :: rest) = skipBlanks rest := by
  simp [skipBlanks, h]

/-- Behind its blanks no piece begins with a bracket that closes something. -/
theorem IsJson.skipBlanks_eq {part : Part} {text : Bytes} (h : IsJson part text) (rest : Bytes) :
    ∃ first more, skipBlanks (text ++ rest) = first :: more ∧ first ≠ 0x5d ∧ first ≠ 0x7d := by
  induction h generalizing rest with
  | blank hbyte _ ih =>
    rw [List.cons_append, skipBlanks_blank hbyte]
    exact ih rest
  | number hnumber =>
    obtain ⟨first, more, rfl, hfirst⟩ := hnumber.exists_cons
    rw [List.cons_append, skipBlanks_cons (not_isBlank_of_isDigit hfirst)]
    refine ⟨_, _, rfl, ?_, ?_⟩ <;> rintro rfl <;> cases hfirst
  | lastItem _ _ ih | nextItem _ _ _ ih =>
    rw [List.append_assoc]
    exact ih _
  | lastMember hws | nextMember hws =>
    rw [List.append_assoc, List.cons_append, skipBlanks_append_cons hws rfl]
    exact ⟨_, _, rfl, by decide, by decide⟩
  | _ =>
    rw [List.cons_append, skipBlanks_cons rfl]
    exact ⟨_, _, rfl, by decide, by decide⟩

theorem skipValue_skipBlanks (fuel : Nat) (bytes : Bytes) :
    skipValue fuel (skipBlanks bytes) = skipValue fuel bytes := by
  cases fuel with
  | zero => rfl
  | succ fuel => simp [skipValue]

theorem skipItems_skipBlanks (fuel : Nat) (bytes : Bytes) :
    skipItems fuel (skipBlanks bytes) = skipItems fuel bytes := by
  cases fuel with
  | zero => rfl
  | succ fuel => simp [skipItems, skipValue_skipBlanks]

theorem skipMembers_skipBlanks (fuel : Nat) (bytes : Bytes) :
    skipMembers fuel (skipBlanks bytes) = skipMembers fuel bytes := by
  cases fuel with
  | zero => rfl
  | succ fuel => simp [skipMembers]

/-- Passes over a piece. -/
def Part.skip : Part → Nat → Bytes → Except Fault Bytes
  | value => skipValue
  | items => skipItems
  | members => skipMembers

/-- A piece is passed over exactly, if nothing behind a value can be taken for a part of it. -/
theorem IsJson.skip_append {part : Part} {text : Bytes} (h : IsJson part text) (fuel : Nat)
    (hfuel : part.steps text ≤ fuel) (rest : Bytes) (hends : part = .value → Ends rest) :
    part.skip (fuel + 1) (text ++ rest) = .ok rest := by
  induction h generalizing fuel rest with
  | @blank byte text hbyte _ ih =>
    have := ih fuel (by simp only [Part.steps, List.length_cons] at hfuel ⊢; omega) rest hends
    rw [Part.skip, ← skipValue_skipBlanks] at this ⊢
    rw [List.cons_append, skipBlanks_blank hbyte]
    exact this
  | null | yes | no =>
    rw [List.cons_append, Part.skip, skipValue, skipBlanks_cons rfl]
    exact keyword_append _ rest
  | number hnumber =>
    have hskip := skipNumber_append hnumber (hends rfl)
    obtain ⟨first, more, rfl, hfirst⟩ := hnumber.exists_cons
    rw [List.cons_append] at hskip ⊢
    have hne (byte : UInt8) (hbyte : isDigit byte = false) : first ≠ byte := by
      rintro rfl
      cases hfirst.symm.trans hbyte
    simpa only [Part.skip, skipValue, skipBlanks_cons (not_isBlank_of_isDigit hfirst),
      if_neg (hne 0x6e rfl), if_neg (hne 0x74 rfl), if_neg (hne 0x66 rfl), if_neg (hne 0x2d rfl),
      hfirst, if_true] using hskip
  | negative hnumber =>
    rw [List.cons_append, Part.skip, skipValue, skipBlanks_cons rfl]
    exact skipNumber_append hnumber (hends rfl)
  | text htext =>
    rw [List.cons_append, List.append_assoc, Part.skip, skipValue, skipBlanks_cons rfl]
    exact skipString_append htext rest
  | emptyList hws | emptyObject hws =>
    rw [List.cons_append, List.append_assoc, Part.skip, skipValue, skipBlanks_cons rfl]
    simp [skipBlanks_append hws, skipBlanks_cons, isBlank, isDigit]
  | list hitems ih =>
    simp only [Part.steps, List.length_cons] at hfuel ih
    obtain ⟨fuel, rfl⟩ : ∃ n, fuel = n + 1 := ⟨fuel - 1, by omega⟩
    obtain ⟨first, more, hfirst, hne, -⟩ := hitems.skipBlanks_eq rest
    have := ih fuel (by omega) rest (by simp)
    rw [Part.skip, ← skipItems_skipBlanks, hfirst] at this
    simp [Part.skip, skipValue, skipBlanks_cons, isBlank, isDigit, hfirst, hne, this]
  | object hmembers ih =>
    simp only [Part.steps, List.length_cons] at hfuel ih
    obtain ⟨fuel, rfl⟩ : ∃ n, fuel = n + 1 := ⟨fuel - 1, by omega⟩
    obtain ⟨first, more, hfirst, -, hne⟩ := hmembers.skipBlanks_eq rest
    have := ih fuel (by omega) rest (by simp)
    rw [Part.skip, ← skipMembers_skipBlanks, hfirst] at this
    simp [Part.skip, skipValue, skipBlanks_cons, isBlank, isDigit, hfirst, hne, this]
  | lastItem hitem hws ih =>
    simp only [Part.steps, List.length_cons, List.length_append] at hfuel ih
    obtain ⟨fuel, rfl⟩ : ∃ n, fuel = n + 1 := ⟨fuel - 1, by omega⟩
    have := ih fuel (by omega) _ fun _ => ends_append_cons hws (.inr (.inl rfl)) rest
    simp only [Part.skip] at this
    simp [Part.skip, skipItems, this, skipBlanks_append hws, skipBlanks_cons, isBlank]
  | @nextItem item ws more hitem hws hmore ih ihmore =>
    simp only [Part.steps, List.length_cons, List.length_append] at hfuel ih ihmore
    obtain ⟨fuel, rfl⟩ : ∃ n, fuel = n + 1 := ⟨fuel - 1, by omega⟩
    have hitem := ih fuel (by omega) _ fun _ =>
      ends_append_cons hws (.inl rfl) (more ++ rest)
    have hmore := ihmore fuel (by omega) rest (by simp)
    simp only [Part.skip] at hitem hmore
    rw [Part.skip, skipItems]
    simp [hitem, hmore, skipBlanks_append hws, skipBlanks_cons, isBlank]
  | lastMember hws hname hws' hvalue hws'' ih =>
    simp only [Part.steps, List.length_cons, List.length_append] at hfuel ih
    obtain ⟨fuel, rfl⟩ : ∃ n, fuel = n + 1 := ⟨fuel - 1, by omega⟩
    have := ih fuel (by omega) _ fun _ => ends_append_cons hws'' (.inr (.inr rfl)) rest
    simp only [Part.skip] at this
    simp [Part.skip, skipMembers, this, skipBlanks_append, hws, hws', hws'', skipBlanks_cons,
      isBlank, skipString_append hname]
  | @nextMember ws name ws' value ws'' more hws hname hws' hvalue hws'' hmore ih ihmore =>
    simp only [Part.steps, List.length_cons, List.length_append] at hfuel ih ihmore
    obtain ⟨fuel, rfl⟩ : ∃ n, fuel = n + 1 := ⟨fuel - 1, by omega⟩
    have hvalue := ih fuel (by omega) _ fun _ =>
      ends_append_cons hws'' (.inl rfl) (more ++ rest)
    have hmore := ihmore fuel (by omega) rest (by simp)
    simp only [Part.skip] at hvalue hmore
    rw [Part.skip, skipMembers]
    simp [hvalue, hmore, skipBlanks_append, hws, hws', hws'', skipBlanks_cons, isBlank,
      skipString_append hname]

/-- Any value is passed over exactly. -/
theorem IsJson.skip_eq {text rest : Bytes} (h : IsValue text) (hends : Ends rest) :
    skip (text ++ rest) = .ok rest :=
  h.skip_append _ (by simp only [Part.steps, List.length_append]; omega) rest fun _ => hends

end BoardDebug.Json
