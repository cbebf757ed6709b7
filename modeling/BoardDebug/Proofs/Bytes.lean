import Mathlib.Data.Nat.Digits.Defs
import BoardDebug.Proofs.Call.Routine
import BoardDebug.Session.Snapshot

namespace BoardDebug

variable {bytes : Bytes} {words : List UInt32} {word : UInt32} {what : Malformed}
  {offset index : Nat}

/-! ### All words -/

@[simp] theorem length_wordBytes (words : List UInt32) :
    (wordBytes words).length = 4 * words.length := by
  induction words with
  | nil => rfl
  | cons word words ih =>
    change (Word.bytes word ++ wordBytes words).length = _
    rw [List.length_append, Word.length_bytes, ih, List.length_cons]
    omega

theorem Word.ofDigits_bytes (word : UInt32) :
    Nat.ofDigits 256 ((Word.bytes word).map UInt8.toNat) = word.toNat := by
  have hlt := word.toNat_lt
  simp only [Word.bytes, List.map_cons, List.map_nil, Word.ofNat_toNat, Nat.ofDigits_cons,
    Nat.ofDigits_nil]
  omega

/-- The least significant byte comes first, and so does the first word. -/
theorem ofDigits_wordBytes (words : List UInt32) :
    Nat.ofDigits 256 ((wordBytes words).map UInt8.toNat) =
      Nat.ofDigits UInt32.size (words.map UInt32.toNat) := by
  induction words with
  | nil => rfl
  | cons word words ih =>
    change Nat.ofDigits 256 ((Word.bytes word ++ wordBytes words).map UInt8.toNat) = _
    rw [List.map_append, Nat.ofDigits_append, Word.ofDigits_bytes, ih, List.length_map,
      Word.length_bytes, List.map_cons, Nat.ofDigits_cons]
    rfl

@[simp] theorem words?_wordBytes (words : List UInt32) : words? (wordBytes words) = some words := by
  induction words with
  | nil => rfl
  | cons word words ih =>
    change (words? (wordBytes words)).map (Word.ofBytes _ _ _ _ :: ·) = _
    rw [ih, Word.ofBytes_bytes]
    rfl

theorem wordBytes_of_words? (h : words? bytes = some words) : wordBytes words = bytes := by
  fun_induction words? bytes generalizing words with
  | case1 =>
    cases h
    rfl
  | case2 a b c d rest ih =>
    obtain ⟨others, hothers, rfl⟩ := Option.map_eq_some_iff.1 h
    change Word.bytes (Word.ofBytes a b c d) ++ wordBytes others = _
    rw [Word.bytes_ofBytes, ih hothers]
    rfl
  | case3 => cases h

theorem length_of_words? (h : words? bytes = some words) : bytes.length = 4 * words.length := by
  rw [← wordBytes_of_words? h, length_wordBytes]

theorem length_mod_of_words? (h : words? bytes = none) : bytes.length % 4 ≠ 0 := by
  fun_induction words? bytes with
  | case1 => cases h
  | case2 a b c d rest ih =>
    have hrest := ih (Option.map_eq_none_iff.1 h)
    simp only [List.length_cons]
    omega
  | case3 bytes hnil hlong =>
    match bytes with
    | [] => exact absurd rfl hnil
    | [_] | [_, _] | [_, _, _] => simp
    | a :: b :: c :: d :: rest => exact absurd rfl (hlong a b c d rest)

@[simp] theorem readWords_wordBytes (words : List UInt32) :
    readWords (wordBytes words) = .ok words := by
  simp [readWords]

theorem readWords_eq_ok_iff : readWords bytes = .ok words ↔ wordBytes words = bytes := by
  constructor
  · intro h
    unfold readWords at h
    split at h
    case h_1 hwords =>
      cases h
      exact wordBytes_of_words? hwords
    case h_2 => cases h
  · rintro rfl
    exact readWords_wordBytes words

theorem readWords_eq_error_iff :
    readWords bytes = .error what ↔ ¬4 ∣ bytes.length ∧ what = .ragged bytes.length := by
  unfold readWords
  split
  case h_1 words hwords =>
    have hlength := length_of_words? hwords
    simp only [reduceCtorEq, hlength, Nat.dvd_mul_right, not_true, false_and]
  case h_2 hnone =>
    have hmod := length_mod_of_words? hnone
    simp only [Except.error.injEq, Nat.dvd_iff_mod_eq_zero, hmod, not_false_iff, true_and]
    exact eq_comm

theorem exists_readWords_iff : (∃ words, readWords bytes = .ok words) ↔ 4 ∣ bytes.length := by
  cases h : readWords bytes with
  | ok words =>
    have hlength := length_wordBytes words
    rw [readWords_eq_ok_iff.1 h] at hlength
    simp only [Except.ok.injEq, exists_eq', true_iff]
    exact ⟨words.length, hlength⟩
  | error what => simpa using (readWords_eq_error_iff.1 h).1

/-- The whole words at the front of `bytes`. -/
theorem exists_readWords_take (bytes : Bytes) :
    ∃ words, readWords (bytes.take (4 * (bytes.length / 4))) = .ok words ∧
      words.length = bytes.length / 4 ∧ wordBytes words <+: bytes := by
  have hlength : (bytes.take (4 * (bytes.length / 4))).length = 4 * (bytes.length / 4) :=
    List.length_take_of_le (Nat.mul_div_le _ _)
  cases h : readWords (bytes.take (4 * (bytes.length / 4))) with
  | ok words =>
    have hwords := readWords_eq_ok_iff.1 h
    rw [← hwords, length_wordBytes] at hlength
    exact ⟨words, rfl, by omega, hwords ▸ List.take_prefix _ _⟩
  | error what => exact absurd ⟨_, hlength⟩ (readWords_eq_error_iff.1 h).1

/-! ### One word -/

/-- What is wrong if fewer than four of `length` bytes lie behind `offset`. -/
def Malformed.missing (length offset : Nat) : Malformed :=
  if offset < length then .cutOff (length - offset) else .pastEnd offset

theorem wordFrom_eq_ok_iff :
    wordFrom bytes offset = .ok word ↔ Word.bytes word <+: bytes.drop offset := by
  unfold wordFrom
  constructor
  · intro h
    split at h
    case h_1 a b c d rest hdrop =>
      cases h
      rw [hdrop, Word.bytes_ofBytes]
      exact List.prefix_append _ rest
    all_goals cases h
  · rintro ⟨rest, hrest⟩
    rw [← hrest]
    change Except.ok (Word.ofBytes _ _ _ _) = _
    rw [Word.ofBytes_bytes]

theorem wordFrom_eq_error_iff :
    wordFrom bytes offset = .error what ↔
      bytes.length < offset + 4 ∧ what = .missing bytes.length offset := by
  have hlength : bytes.length - offset = (bytes.drop offset).length := List.length_drop.symm
  unfold wordFrom Malformed.missing
  -- Behind `offset` there is nothing, a part of a word, or a word with whatever follows it.
  match hdrop : bytes.drop offset with
  | [] =>
    simp only [hdrop, List.length_nil] at hlength
    rw [if_neg (by omega), Except.error.injEq, eq_comm, iff_and_self]
    omega
  | [_] | [_, _] | [_, _, _] =>
    simp only [hdrop, List.length_cons, List.length_nil] at hlength ⊢
    rw [if_pos (by omega), hlength, Except.error.injEq, eq_comm, iff_and_self]
    omega
  | a :: b :: c :: d :: rest =>
    simp only [hdrop, List.length_cons] at hlength
    simp only [reduceCtorEq, false_iff, not_and]
    omega

theorem exists_wordFrom_iff :
    (∃ word, wordFrom bytes offset = .ok word) ↔ offset + 4 ≤ bytes.length := by
  cases h : wordFrom bytes offset with
  | ok word =>
    have hlength := (wordFrom_eq_ok_iff.1 h).length_le
    rw [Word.length_bytes, List.length_drop] at hlength
    simp only [Except.ok.injEq, exists_eq', true_iff]
    omega
  | error what =>
    have hshort := (wordFrom_eq_error_iff.1 h).1
    simp only [reduceCtorEq, exists_false, false_iff]
    omega

/-! ### Each word in its place -/

theorem drop_wordBytes (words : List UInt32) (index : Nat) :
    (wordBytes words).drop (4 * index) = wordBytes (words.drop index) := by
  induction index generalizing words with
  | zero => rfl
  | succ index ih =>
    cases words with
    | nil => rfl
    | cons word words => exact ih words

/-- Bytes start with words if each of them is read in its place. -/
theorem wordBytes_prefix_iff : wordBytes words <+: bytes ↔
    ∀ index (h : index < words.length), wordAt bytes index = .ok words[index] := by
  simp only [wordAt, wordFrom_eq_ok_iff]
  constructor
  · rintro ⟨rest, rfl⟩ index h
    have hle : 4 * index ≤ (wordBytes words).length := by
      rw [length_wordBytes]
      omega
    rw [List.drop_append_of_le_length hle, drop_wordBytes, List.drop_eq_getElem_cons h]
    exact ⟨wordBytes (words.drop (index + 1)) ++ rest, (List.append_assoc ..).symm⟩
  · intro h
    -- The first word is cut off the front, so the others are read one place earlier in the rest.
    induction words generalizing bytes with
    | nil => exact List.nil_prefix
    | cons word words ih =>
      obtain ⟨rest, hrest⟩ := h 0 (Nat.succ_pos _)
      obtain rfl : Word.bytes word ++ rest = bytes := hrest
      refine (List.prefix_append_right_inj _).2 (ih fun index hindex => ?_)
      have hdrop : (Word.bytes word ++ rest).drop (4 * (index + 1)) = rest.drop (4 * index) := by
        rw [Nat.mul_succ, Nat.add_comm, ← List.drop_drop]
        rfl
      rw [← hdrop]
      exact h (index + 1) (Nat.succ_lt_succ hindex)

/-- A word is read alone just as it is read among all whole words. -/
theorem wordAt_eq_ok_iff (hlength : words.length = bytes.length / 4)
    (hfront : wordBytes words <+: bytes) :
    wordAt bytes index = .ok word ↔ words[index]? = some word := by
  have hread := wordBytes_prefix_iff.1 hfront
  constructor
  · intro h
    have hroom := exists_wordFrom_iff.1 ⟨word, h⟩
    have hindex : index < words.length := by omega
    rw [hread index hindex] at h
    rw [List.getElem?_eq_getElem hindex, Except.ok.inj h]
  · intro h
    obtain ⟨hindex, rfl⟩ := List.getElem?_eq_some_iff.1 h
    exact hread index hindex

@[simp] theorem wordAt_zero_wordBytes (word : UInt32) (words : List UInt32) :
    wordAt (wordBytes (word :: words)) 0 = .ok word :=
  wordBytes_prefix_iff.1 (List.prefix_refl _) 0 (by simp)

theorem wordAt_wordBytes (words : List UInt32) (index : Nat) :
    wordAt (wordBytes words) index =
      match words[index]? with
      | some word => .ok word
      | none => .error (.pastEnd (4 * index)) := by
  cases h : words[index]? with
  | some word =>
    obtain ⟨hindex, rfl⟩ := List.getElem?_eq_some_iff.1 h
    exact wordBytes_prefix_iff.1 (List.prefix_refl _) index hindex
  | none =>
    have hend : (wordBytes words).length ≤ 4 * index := by
      have hindex := List.getElem?_eq_none_iff.1 h
      rw [length_wordBytes]
      omega
    refine wordFrom_eq_error_iff.2 ⟨by omega, ?_⟩
    rw [Malformed.missing, if_neg (by omega)]

/-! ### What a device says of itself -/

theorem haltPlace_eq_ok_iff {payload : Bytes} {pc : UInt32} :
    haltPlace payload = .ok pc ↔ wordBytes [pc] <+: payload := by
  rw [haltPlace, wordAt, wordFrom_eq_ok_iff]
  simp [wordBytes]

theorem exists_haltPlace_iff {payload : Bytes} :
    (∃ pc, haltPlace payload = .ok pc) ↔ 4 ≤ payload.length :=
  exists_wordFrom_iff

namespace GlobalsArea

variable {reply : Bytes} {area : GlobalsArea}

theorem ofReply_eq_ok_iff :
    ofReply reply = .ok area ↔ wordBytes [area.count, area.address] <+: reply := by
  have hread : ofReply reply = .ok area ↔
      wordAt reply 0 = .ok area.count ∧ wordAt reply 1 = .ok area.address := by
    obtain ⟨count, address⟩ := area
    unfold ofReply
    cases wordAt reply 0 <;> cases wordAt reply 1 <;> simp [bind, Except.bind, pure, Except.pure]
  rw [hread, wordBytes_prefix_iff]
  constructor
  · rintro ⟨hcount, haddress⟩ index h
    match index with
    | 0 => exact hcount
    | 1 => exact haddress
  · intro h
    exact ⟨h 0 Nat.zero_lt_two, h 1 Nat.one_lt_two⟩

theorem exists_ofReply_iff : (∃ area, ofReply reply = .ok area) ↔ 8 ≤ reply.length := by
  simp only [ofReply_eq_ok_iff]
  constructor
  · rintro ⟨area, h⟩
    simpa using h.length_le
  · intro h
    obtain ⟨words, -, hlength, hfront⟩ := exists_readWords_take reply
    match words with
    | [] | [_] =>
      simp only [List.length_nil, List.length_cons] at hlength
      omega
    | count :: address :: words =>
      have hboth : wordBytes [count, address] <+: wordBytes (count :: address :: words) :=
        List.prefix_append _ (wordBytes words)
      exact ⟨⟨count, address⟩, hboth.trans hfront⟩

variable {σ δ : Type} [Link δ] {notify : Event → σ → σ} {s : σ} {link : δ}

theorem fetch_eq_ok_iff : (Routine.run notify fetch s link).result = some (.ok area) ↔
    ∃ reply, (Link.serve link (.talk Opcode.getGlobals [])).answer = .ok reply ∧
      ofReply reply = .ok area := by
  rw [fetch, Routine.run_bind, Routine.run_ask]
  cases hanswer : (Link.serve link (.talk Opcode.getGlobals [])).answer with
  | error e => simp [hanswer, Call.Run.next, Call.Run.andThen]
  | ok reply =>
    cases hread : ofReply reply <;> simp [hanswer, hread, Call.Run.next, Call.Run.andThen]

theorem exists_fetch_iff : (∃ area, (Routine.run notify fetch s link).result = some (.ok area)) ↔
    ∃ reply, (Link.serve link (.talk Opcode.getGlobals [])).answer = .ok reply ∧
      8 ≤ reply.length := by
  simp only [fetch_eq_ok_iff, ← exists_ofReply_iff]
  rw [exists_comm]
  simp only [exists_and_left]

end GlobalsArea

/-- Words are read back as they were written, all of them or one alone. Places and areas are read off
the front of what a device sends, and what follows them does not matter. -/
theorem words_read_back {σ δ : Type} [Link δ] (notify : Event → σ → σ) :
    (∀ words, readWords (wordBytes words) = .ok words ∧
      (wordBytes words).length = 4 * words.length ∧
      Nat.ofDigits 256 ((wordBytes words).map UInt8.toNat) =
        Nat.ofDigits UInt32.size (words.map UInt32.toNat)) ∧
    (∀ bytes, ((∃ words, readWords bytes = .ok words) ↔ 4 ∣ bytes.length) ∧
      ∀ words, readWords bytes = .ok words → wordBytes words = bytes) ∧
    (∀ bytes, ∃ words, readWords (bytes.take (4 * (bytes.length / 4))) = .ok words ∧
      ∀ index, ((∃ word, wordAt bytes index = .ok word) ↔ 4 * index + 4 ≤ bytes.length) ∧
        ∀ word, wordAt bytes index = .ok word ↔ words[index]? = some word) ∧
    (∀ payload, ((∃ pc, haltPlace payload = .ok pc) ↔ 4 ≤ payload.length) ∧
      ∀ pc, haltPlace payload = .ok pc ↔ wordBytes [pc] <+: payload) ∧
    ∀ (s : σ) (link : δ),
      let answer := (Link.serve link (.talk Opcode.getGlobals [])).answer
      let result := (Routine.run notify GlobalsArea.fetch s link).result
      ((∃ area, result = some (.ok area)) ↔ ∃ reply, answer = .ok reply ∧ 8 ≤ reply.length) ∧
      ∀ area, result = some (.ok area) ↔
        ∃ reply, answer = .ok reply ∧ wordBytes [area.count, area.address] <+: reply := by
  refine ⟨fun words => ?_, fun bytes => ?_, fun bytes => ?_, fun payload => ?_,
    fun s link => ⟨?_, fun area => ?_⟩⟩
  · exact ⟨readWords_wordBytes words, length_wordBytes words, ofDigits_wordBytes words⟩
  · exact ⟨exists_readWords_iff, fun words => readWords_eq_ok_iff.1⟩
  · obtain ⟨words, hwords, hlength, hfront⟩ := exists_readWords_take bytes
    exact ⟨words, hwords, fun index =>
      ⟨exists_wordFrom_iff, fun word => wordAt_eq_ok_iff hlength hfront⟩⟩
  · exact ⟨exists_haltPlace_iff, fun pc => haltPlace_eq_ok_iff⟩
  · exact GlobalsArea.exists_fetch_iff
  · rw [GlobalsArea.fetch_eq_ok_iff]
    simp only [GlobalsArea.ofReply_eq_ok_iff]

example :
    wordBytes [0x12345678, 1] = [0x78, 0x56, 0x34, 0x12, 1, 0, 0, 0] ∧
      wordAt [1, 0, 0, 0, 9] 1 = .error (.cutOff 1) := by
  decide

end BoardDebug
