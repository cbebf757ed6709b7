import BoardDebug.Text.Utf8
import Mathlib.Data.List.TakeDrop
import Mathlib.Tactic.SplitIfs

namespace BoardDebug.Text

variable {α : Type} {front back : List α}

/-- A text is cut where a condition fails for the first time. -/
theorem span_append {holds : α → Bool} (hfront : ∀ a ∈ front, holds a = true)
    (hback : ∀ a ∈ back.head?, holds a = false) : (front ++ back).span holds = (front, back) := by
  rw [List.span_eq_takeWhile_dropWhile, List.takeWhile_append_of_pos hfront,
    List.dropWhile_append_of_pos hfront]
  cases back with
  | nil => simp
  | cons a back =>
    have ha : holds a = false := hback a rfl
    simp [ha]

/-- So it is at the first place of what is not in front of it. -/
theorem span_ne_append [DecidableEq α] {a : α} (h : a ∉ front) (back : List α) :
    (front ++ a :: back).span (· ≠ a) = (front, a :: back) := by
  refine span_append (fun other hother => ?_) (by simp)
  rw [decide_eq_true_iff]
  rintro rfl
  exact h hother

end BoardDebug.Text

namespace BoardDebug.Utf8

/-- How the code point of a character is spread over its bytes. -/
inductive Spread (c : Char) : Bytes → Prop
  | one {a : UInt8} : c.toNat < 0x80 → a.toNat = c.toNat → Spread c [a]
  | two {a b : UInt8} : 0x80 ≤ c.toNat → c.toNat < 0x800 → a.toNat = c.toNat / 64 + 0xc0 →
      b.toNat = c.toNat % 64 + 0x80 → Spread c [a, b]
  | three {a b d : UInt8} : 0x800 ≤ c.toNat → c.toNat < 0x10000 →
      a.toNat = c.toNat / 4096 + 0xe0 → b.toNat = c.toNat / 64 % 64 + 0x80 →
      d.toNat = c.toNat % 64 + 0x80 → Spread c [a, b, d]
  | four {a b d e : UInt8} : 0x10000 ≤ c.toNat → c.toNat < 0x110000 →
      a.toNat = c.toNat / 262144 + 0xf0 → b.toNat = c.toNat / 4096 % 64 + 0x80 →
      d.toNat = c.toNat / 64 % 64 + 0x80 → e.toNat = c.toNat % 64 + 0x80 → Spread c [a, b, d, e]

/-- The code points that no character has lie between those of the characters. -/
theorem toNat_lt_or_le (c : Char) :
    c.toNat < 0xd800 ∨ 0xe000 ≤ c.toNat ∧ c.toNat < 0x110000 := by
  have valid : c.toNat.isValidChar := c.valid
  simp only [Nat.isValidChar] at valid
  omega

theorem encodeChar_eq (c : Char) : String.utf8EncodeChar c =
    if c.toNat ≤ 0x7f then [.ofNat c.toNat]
    else if c.toNat ≤ 0x7ff then [.ofNat (c.toNat / 64 % 32 + 0xc0), .ofNat (c.toNat % 64 + 0x80)]
    else if c.toNat ≤ 0xffff then
      [.ofNat (c.toNat / 4096 % 16 + 0xe0), .ofNat (c.toNat / 64 % 64 + 0x80),
        .ofNat (c.toNat % 64 + 0x80)]
    else
      [.ofNat (c.toNat / 262144 % 8 + 0xf0), .ofNat (c.toNat / 4096 % 64 + 0x80),
        .ofNat (c.toNat / 64 % 64 + 0x80), .ofNat (c.toNat % 64 + 0x80)] := rfl

theorem spread_encodeChar (c : Char) : Spread c (String.utf8EncodeChar c) := by
  have range := toNat_lt_or_le c
  rw [encodeChar_eq]
  split_ifs with h₁ h₂ h₃
  · refine .one (by omega) ?_
    rw [UInt8.toNat_ofNat']
    omega
  · refine .two (by omega) (by omega) ?_ ?_ <;> rw [UInt8.toNat_ofNat'] <;> omega
  · refine .three (by omega) (by omega) ?_ ?_ ?_ <;> rw [UInt8.toNat_ofNat'] <;> omega
  · refine .four (by omega) (by omega) ?_ ?_ ?_ ?_ <;> rw [UInt8.toNat_ofNat'] <;> omega

/-- A second byte fits unless the first one asks for more of it. -/
theorem secondFits_of {first second : UInt8} (low : 0x80 ≤ second.toNat)
    (high : second.toNat ≤ 0xbf) (e0 : first.toNat = 0xe0 → 0xa0 ≤ second.toNat)
    (ed : first.toNat = 0xed → second.toNat ≤ 0x9f) (f0 : first.toNat = 0xf0 → 0x90 ≤ second.toNat)
    (f4 : first.toNat = 0xf4 → second.toNat ≤ 0x8f) : secondFits first second = true := by
  unfold secondFits
  split <;> simp_all [UInt8.le_iff_toNat_le]

theorem continues_of {byte : UInt8} (low : 0x80 ≤ byte.toNat) (high : byte.toNat ≤ 0xbf) :
    continues byte = true := by
  simp [continues, UInt8.le_iff_toNat_le, low, high]

theorem width_eq (first : UInt8) : width first =
    if first.toNat < 0x80 then 1 else if 0xc2 ≤ first.toNat ∧ first.toNat ≤ 0xdf then 2
    else if 0xe0 ≤ first.toNat ∧ first.toNat ≤ 0xef then 3
    else if 0xf0 ≤ first.toNat ∧ first.toNat ≤ 0xf4 then 4 else 0 := by
  simp [width, UInt8.lt_iff_toNat_lt, UInt8.le_iff_toNat_le]

theorem low_of {byte : UInt8} {n : Nat} (h : byte.toNat = n + 0x80) : low byte = n := by
  change byte.toNat - 0x80 = n
  omega

theorem ofNat_of_eq {c : Char} {n : Nat} (h : n = c.toNat) : Char.ofNat n = c := by
  rw [h, Char.ofNat_toNat]

theorem head_spread {c : Char} {first : UInt8} {more : Bytes} (h : Spread c (first :: more))
    (rest : Bytes) : head first (more ++ rest) = .char c rest := by
  have range := toNat_lt_or_le c
  cases h with
  | one h ha =>
    have : width first = 1 := by rw [width_eq, if_pos (by omega)]
    simp only [head, this, List.nil_append, ha, Char.ofNat_toNat]
  | @two _ b h h' ha hb =>
    have : width first = 2 := by rw [width_eq, if_neg (by omega), if_pos (by omega)]
    have fits : secondFits first b := by apply secondFits_of <;> omega
    have value : (first.toNat - 0xc0) * 64 + low b = c.toNat := by
      rw [low_of hb]
      omega
    simp only [head, this, List.cons_append, List.nil_append, fits, if_true]
    rw [ofNat_of_eq value]
  | @three _ b d h h' ha hb hd =>
    have : width first = 3 := by
      rw [width_eq, if_neg (by omega), if_neg (by omega), if_pos (by omega)]
    have fits : secondFits first b := by apply secondFits_of <;> omega
    have goesOn : continues d := by apply continues_of <;> omega
    have value : ((first.toNat - 0xe0) * 64 + low b) * 64 + low d = c.toNat := by
      rw [low_of hb, low_of hd]
      omega
    simp only [head, this, List.cons_append, List.nil_append, fits, goesOn, if_true]
    rw [ofNat_of_eq value]
  | @four _ b d e h h' ha hb hd he =>
    have : width first = 4 := by
      rw [width_eq, if_neg (by omega), if_neg (by omega), if_neg (by omega), if_pos (by omega)]
    have fits : secondFits first b := by apply secondFits_of <;> omega
    have goesOn : continues d := by apply continues_of <;> omega
    have goesOn' : continues e := by apply continues_of <;> omega
    have value : (((first.toNat - 0xf0) * 64 + low b) * 64 + low d) * 64 + low e = c.toNat := by
      rw [low_of hb, low_of hd, low_of he]
      omega
    simp only [head, this, List.cons_append, List.nil_append, fits, goesOn, goesOn', if_true]
    rw [ofNat_of_eq value]

/-- The first character of a text is read off its bytes. -/
theorem decode?_encodeChar_append (c : Char) (rest : Bytes) :
    decode? (String.utf8EncodeChar c ++ rest) = (decode? rest).map (c :: ·) := by
  obtain ⟨first, more, h⟩ := List.exists_cons_of_ne_nil (String.utf8EncodeChar_ne_nil (c := c))
  have spread := spread_encodeChar c
  rw [h] at spread ⊢
  rw [List.cons_append, decode?]
  split
  next c' left found =>
    rw [head_spread spread] at found
    cases found
    rfl
  next left found =>
    rw [head_spread spread] at found
    cases found

@[simp] theorem decode?_encode (text : List Char) : decode? (encode text) = some text := by
  induction text with
  | nil => simp [encode, decode?]
  | cons c text ih =>
    rw [encode, List.flatMap_cons, decode?_encodeChar_append]
    exact congrArg (Option.map (c :: ·)) ih

@[simp] theorem encode_nil : encode [] = [] := rfl

@[simp] theorem encode_cons (c : Char) (text : List Char) :
    encode (c :: text) = String.utf8EncodeChar c ++ encode text := rfl

theorem encode_append (a b : List Char) : encode (a ++ b) = encode a ++ encode b :=
  List.flatMap_append

/-- The bytes of a character below the end of ASCII are those of no other. -/
theorem mem_encodeChar {c : Char} {byte : UInt8} (h : byte ∈ String.utf8EncodeChar c) :
    byte.toNat = c.toNat ∨ 0x80 ≤ byte.toNat ∧ 0x80 ≤ c.toNat := by
  generalize hs : String.utf8EncodeChar c = bytes at h
  have spread := hs ▸ spread_encodeChar c
  cases spread <;> simp only [List.mem_cons, List.not_mem_nil, or_false] at h <;> grind

/-- Bytes are compared by the numbers that they are. -/
theorem cons_lt_cons {a b : UInt8} {as bs : Bytes} :
    a :: as < b :: bs ↔ a.toNat < b.toNat ∨ a.toNat = b.toNat ∧ as < bs := by
  rw [List.cons_lt_cons_iff, UInt8.lt_iff_toNat_lt, UInt8.toNat_inj]

/-- Of two different characters the one with the lower code point has the lower bytes. -/
theorem encodeChar_append_lt {c d : Char} (h : c < d) (x y : Bytes) :
    String.utf8EncodeChar c ++ x < String.utf8EncodeChar d ++ y := by
  have less : c.toNat < d.toNat := h
  have hc := spread_encodeChar c
  have hd := spread_encodeChar d
  generalize String.utf8EncodeChar c = cs at hc
  generalize String.utf8EncodeChar d = ds at hd
  cases hc <;> cases hd <;> simp only [List.cons_append, List.nil_append, cons_lt_cons] <;> omega

/-- Texts are in the order of their bytes. -/
theorem encode_lt_encode {a b : List Char} (h : a < b) : encode a < encode b := by
  induction h with
  | nil =>
    rename_i c text
    obtain ⟨first, more, h⟩ := List.exists_cons_of_ne_nil (String.utf8EncodeChar_ne_nil (c := c))
    rw [encode_cons, h]
    exact List.nil_lt_cons ..
  | rel h => exact encodeChar_append_lt h _ _
  | cons _ ih => exact List.append_left_lt ih

end BoardDebug.Utf8
