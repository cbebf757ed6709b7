import Mathlib.Data.List.Nodup
import Mathlib.Data.List.Perm.Subperm
import Mathlib.Data.Set.Function
import Mathlib.Order.Interval.Set.Defs
import BoardDebug.Globals
import BoardDebug.Proofs.Sorted

namespace BoardDebug.Globals

variable {names : List (UInt32 × String)} {globals : Globals} {place : Nat}

theorem has_iff {name : String} : globals.has name ↔ name ∈ globals.map (·.1) := by
  simp [has, Sorted.find?]

/-! ### Made-up names -/

theorem toString_injective : Function.Injective fun n : Nat => toString n := by
  intro m n h
  have hdigits : Nat.toDigits 10 m = Nat.toDigits 10 n := by
    simpa only [Nat.toString_eq_repr, Nat.toList_repr] using congrArg String.toList h
  simpa using congrArg (Nat.ofDigitChars 10 · 0) hdigits

theorem placeName_injective (place : Nat) : Function.Injective (placeName place) := by
  intro m n h
  have hchars := congrArg String.toList h
  match m, n with
  | 0, 0 => rfl
  | 0, _ + 1 | _ + 1, 0 => simp [placeName] at hchars
  | m + 1, n + 1 =>
    have hsuffix : (toString (m + 1)).toList = (toString (n + 1)).toList := by
      simpa [placeName] using hchars
    exact toString_injective (String.toList_inj.1 hsuffix)

/-- More made-up names than there are words cannot all be taken. -/
theorem exists_free (globals : Globals) (place : Nat) :
    ∃ suffix ≤ globals.length, ¬globals.has (placeName place suffix) := by
  by_contra hnone
  push Not at hnone
  let candidates := (List.range (globals.length + 1)).map (placeName place)
  have hnodup : candidates.Nodup := List.nodup_range.map (placeName_injective place)
  have htaken : candidates ⊆ globals.map (·.1) := by
    intro name hname
    obtain ⟨suffix, hsuffix, rfl⟩ := List.mem_map.1 hname
    exact has_iff.1 (hnone suffix (Nat.le_of_lt_succ (List.mem_range.1 hsuffix)))
  have hlength := (List.subperm_of_subset hnodup htaken).length_le
  simp only [candidates, List.length_map, List.length_range] at hlength
  omega

/-- With a free name in reach the search ends at the first one. -/
theorem freeName_of_free {tries start : Nat}
    (h : ∃ suffix ≤ start + tries, start ≤ suffix ∧ ¬globals.has (placeName place suffix)) :
    ∃ suffix ≥ start, freeName globals place tries start = placeName place suffix ∧
      ¬globals.has (placeName place suffix) ∧
      ∀ earlier, start ≤ earlier → earlier < suffix → globals.has (placeName place earlier) := by
  induction tries generalizing start with
  | zero =>
    obtain ⟨suffix, hle, hge, hfree⟩ := h
    obtain rfl : suffix = start := by omega
    exact ⟨suffix, Nat.le_refl _, rfl, hfree, by omega⟩
  | succ tries ih =>
    rw [freeName]
    split
    case isTrue htaken =>
      obtain ⟨free, hle, hge, hfree⟩ := h
      have hne : free ≠ start := by
        rintro rfl
        exact hfree htaken
      have hfound : ∃ suffix ≤ start + 1 + tries, start + 1 ≤ suffix ∧
          ¬globals.has (placeName place suffix) := ⟨free, by omega, by omega, hfree⟩
      obtain ⟨suffix, hstart, heq, hsuffix, hearlier⟩ := ih hfound
      refine ⟨suffix, by omega, heq, hsuffix, fun earlier hge hlt => ?_⟩
      obtain rfl | hgt := Nat.eq_or_lt_of_le hge
      · exact htaken
      · exact hearlier earlier hgt hlt
    case isFalse hfree =>
      exact ⟨start, Nat.le_refl _, rfl, hfree, by omega⟩

theorem freeName_spec (globals : Globals) (place : Nat) :
    ∃ suffix, freeName globals place globals.length 0 = placeName place suffix ∧
      ¬globals.has (placeName place suffix) ∧
      ∀ earlier < suffix, globals.has (placeName place earlier) := by
  obtain ⟨free, hle, hfree⟩ := exists_free globals place
  have hfound : ∃ suffix ≤ 0 + globals.length, 0 ≤ suffix ∧
      ¬globals.has (placeName place suffix) := ⟨free, by omega, Nat.zero_le _, hfree⟩
  obtain ⟨suffix, -, heq, hsuffix, hearlier⟩ := freeName_of_free hfound
  exact ⟨suffix, heq, hsuffix, fun earlier => hearlier earlier (Nat.zero_le _)⟩

/-! ### The name of one word -/

/-- The variable in `place`: the last one of the first procedure whose slot it is. -/
def owner? (index : ProcedureIndex) (place : Nat) : Option String :=
  index.entry.bind fun entry =>
    (entry.slots.filter fun slot => slot.1.toNat = place).getLast?.map (·.2)

/-- How the word in `place` is named where the names in `taken` belong to other words: by its
variable, or else by the first made-up name that is free. -/
inductive Names (index : ProcedureIndex) (place : Nat) (taken : Set String) : String → Prop where
  | own {name : String} : owner? index place = some name → name ∉ taken →
      Names index place taken name
  | madeUp (suffix : Nat) : (∀ name, owner? index place = some name → name ∈ taken) →
      placeName place suffix ∉ taken → (∀ earlier < suffix, placeName place earlier ∈ taken) →
      Names index place taken (placeName place suffix)

namespace Names

variable {index : ProcedureIndex} {taken : Set String} {name : String}

theorem fresh (h : Names index place taken name) : name ∉ taken := by
  cases h with
  | own _ hfree => exact hfree
  | madeUp _ _ hfree _ => exact hfree

theorem eq_own (h : Names index place taken name) {own : String}
    (hown : owner? index place = some own) (hfree : own ∉ taken) : name = own := by
  cases h with
  | own hname _ => exact Option.some.inj (hname.symm.trans hown)
  | madeUp _ htaken _ _ => exact absurd (htaken own hown) hfree

end Names

theorem find?_slotNames (index : ProcedureIndex) (slot : UInt32) :
    Sorted.find? slot (slotNames index) = owner? index slot.toNat := by
  unfold slotNames owner?
  cases index.entry with
  | none => rfl
  | some entry =>
    rw [Sorted.find?_ofList]
    simp only [Option.bind_some, UInt32.toNat_inj]

/-- A slot is a word, so no variable is in a place past all words. -/
theorem owner?_of_le {index : ProcedureIndex} (h : UInt32.size ≤ place) :
    owner? index place = none := by
  unfold owner?
  cases index.entry with
  | none => rfl
  | some entry =>
    have hnone : entry.slots.filter (fun slot => slot.1.toNat = place) = [] := by
      rw [List.filter_eq_nil_iff]
      intro slot _
      have hlt : slot.1.toNat < UInt32.size := slot.1.toNat_lt_size
      simp only [decide_eq_true_eq]
      omega
    rw [Option.bind_some, hnone]
    rfl

/-- A place past all words shares the slot of an earlier one. If the variable found for it was shown
there, the name that is chosen follows the rule. -/
theorem names_nameFor {index : ProcedureIndex}
    (h : UInt32.size ≤ place →
      ∀ name, owner? index (UInt32.ofNat place).toNat = some name → globals.has name) :
    Names index place {name | globals.has name} (nameFor (slotNames index) globals place) := by
  have hmade : (∀ name, owner? index place = some name → globals.has name) →
      Names index place {name | globals.has name}
        (freeName globals place globals.length 0) := by
    intro htaken
    obtain ⟨suffix, heq, hfree, hearlier⟩ := freeName_spec globals place
    rw [heq]
    exact .madeUp suffix htaken hfree hearlier
  rw [nameFor, find?_slotNames]
  by_cases hplace : place < UInt32.size
  · rw [UInt32.toNat_ofNat_of_lt' hplace]
    cases hown : owner? index place with
    | none => exact hmade (by simp [hown])
    | some name =>
      simp only
      split
      case isTrue htaken => exact hmade (by simpa [hown] using htaken)
      case isFalse hfree => exact .own hown hfree
  · have hge : UInt32.size ≤ place := Nat.le_of_not_lt hplace
    have hfree := hmade (by simp [owner?_of_le hge])
    cases hown : owner? index (UInt32.ofNat place).toNat with
    | none => exact hfree
    | some name => simpa only [if_pos (h hge name hown)] using hfree

/-! ### The names of all words -/

/-- The words named from the front. -/
def shown (names : List (UInt32 × String)) (words : List UInt32) : Globals :=
  nameWords names [] 0 words

/-- The name of the word in `place`, which depends on the words in front of it only. -/
def key (names : List (UInt32 × String)) (words : List UInt32) (place : Nat) : String :=
  nameFor names (shown names (words.take place)) place

theorem nameWords_append (names : List (UInt32 × String)) (globals : Globals) (place : Nat)
    (words more : List UInt32) :
    nameWords names globals place (words ++ more) =
      nameWords names (nameWords names globals place words) (place + words.length) more := by
  induction words generalizing globals place with
  | nil => rfl
  | cons word words ih =>
    rw [List.cons_append, nameWords, ih, List.length_cons, nameWords,
      Nat.add_assoc, Nat.add_comm 1]

theorem shown_concat (names : List (UInt32 × String)) (words : List UInt32) (word : UInt32) :
    shown names (words ++ [word]) =
      Sorted.insert (nameFor names (shown names words) words.length) word (shown names words) := by
  rw [shown, nameWords_append, Nat.zero_add]
  rfl

theorem increasing_shown (names : List (UInt32 × String)) (words : List UInt32) :
    Sorted.Increasing (shown names words) := by
  induction words using List.reverseRecOn with
  | nil => exact .nil
  | append_singleton words word ih =>
    rw [shown_concat]
    exact Sorted.increasing_insert ih

/-- A word that follows does not change a name. -/
theorem key_append (names : List (UInt32 × String)) (words more : List UInt32)
    (h : place ≤ words.length) : key names (words ++ more) place = key names words place := by
  rw [key, key, List.take_append_of_le_length h]

/-- A name that is chosen is free. -/
theorem nameFor_fresh (names : List (UInt32 × String)) (globals : Globals) (place : Nat) :
    ¬globals.has (nameFor names globals place) := by
  obtain ⟨suffix, heq, hfree, -⟩ := freeName_spec globals place
  unfold nameFor
  split
  · split
    case isTrue => rwa [heq]
    case isFalse hname => exact hname
  · rwa [heq]

/-- Nothing is overwritten: each word is there with its name. -/
theorem shown_perm (names : List (UInt32 × String)) (words : List UInt32) :
    (shown names words).Perm
      (words.zipIdx.map fun (word, place) => (key names words place, word)) := by
  induction words using List.reverseRecOn with
  | nil => exact .refl _
  | append_singleton words word ih =>
    have hfresh : ∀ pair ∈ shown names words,
        pair.1 ≠ nameFor names (shown names words) words.length := by
      intro pair hpair heq
      exact nameFor_fresh names _ _ (has_iff.2 (List.mem_map.2 ⟨pair, hpair, heq⟩))
    have hfront : (words.zipIdx.map fun (word', place) =>
          (key names (words ++ [word]) place, word')) =
        words.zipIdx.map fun (word', place) => (key names words place, word') := by
      refine List.map_congr_left fun ⟨word', place⟩ hmem => ?_
      have hlt : place < words.length := (List.mem_zipIdx' hmem).1
      simp only [key_append names words _ (Nat.le_of_lt hlt)]
    have hlast : key names (words ++ [word]) words.length =
        nameFor names (shown names words) words.length := by
      rw [key_append names words _ (Nat.le_refl _), key, List.take_length]
    rw [shown_concat, List.zipIdx_append, List.map_append, hfront]
    simp only [List.zipIdx_singleton, List.map_singleton, Nat.zero_add, hlast]
    exact (Sorted.insert_perm hfresh).trans
      ((ih.cons _).trans (List.perm_append_singleton _ _).symm)

theorem length_shown (names : List (UInt32 × String)) (words : List UInt32) :
    (shown names words).length = words.length := by
  rw [(shown_perm names words).length_eq, List.length_map, List.length_zipIdx]

theorem mem_shown {words : List UInt32} {name : String} {word : UInt32} :
    (name, word) ∈ shown names words ↔ ∃ place, words[place]? = some word ∧
      key names words place = name := by
  rw [(shown_perm names words).mem_iff, List.mem_map]
  constructor
  · rintro ⟨⟨word', place⟩, hmem, heq⟩
    cases heq
    exact ⟨place, List.mem_zipIdx_iff_getElem?.1 hmem, rfl⟩
  · rintro ⟨place, hword, rfl⟩
    exact ⟨(word, place), List.mem_zipIdx_iff_getElem?.2 hword, rfl⟩

/-- The names that are taken before the word in `place` is named are those of the places in front
of it. -/
theorem has_take {words : List UInt32} (h : place ≤ words.length) {name : String} :
    (shown names (words.take place)).has name ↔ name ∈ key names words '' Set.Iio place := by
  have hkey : ∀ earlier < place,
      key names (words.take place) earlier = key names words earlier := by
    intro earlier hlt
    conv_rhs => rw [← List.take_append_drop place words]
    exact (key_append names _ _ (by rw [List.length_take_of_le h]; omega)).symm
  rw [has_iff, List.mem_map]
  constructor
  · rintro ⟨⟨name, word⟩, hmem, rfl⟩
    obtain ⟨earlier, hword, rfl⟩ := mem_shown.1 hmem
    have hlt : earlier < place := by
      have := (List.getElem?_eq_some_iff.1 hword).1
      rw [List.length_take_of_le h] at this
      exact this
    exact ⟨earlier, hlt, (hkey earlier hlt).symm⟩
  · rintro ⟨earlier, hlt, rfl⟩
    have hlt : earlier < place := hlt
    have hword : (words.take place)[earlier]? = some words[earlier] := by
      rw [List.getElem?_take_of_lt hlt, List.getElem?_eq_getElem]
    exact ⟨_, mem_shown.2 ⟨earlier, hword, hkey earlier hlt⟩, rfl⟩

theorem key_fresh {words : List UInt32} (h : place ≤ words.length) :
    key names words place ∉ key names words '' Set.Iio place := by
  rw [← has_take h]
  exact nameFor_fresh names _ place

theorem key_injOn (names : List (UInt32 × String)) (words : List UInt32) :
    Set.InjOn (key names words) (Set.Iio words.length) := by
  intro m hm n hn heq
  obtain hlt | rfl | hgt := Nat.lt_trichotomy m n
  · exact absurd ⟨m, hlt, heq⟩ (key_fresh (Nat.le_of_lt hn))
  · rfl
  · exact absurd ⟨n, hgt, heq.symm⟩ (key_fresh (Nat.le_of_lt hm))

/-- Each word is named by the rule, given the names in front of it. -/
theorem names_key {words : List UInt32} (index : ProcedureIndex) (h : place < words.length) :
    Names index place (key (slotNames index) words '' Set.Iio place)
      (key (slotNames index) words place) := by
  induction place using Nat.strongRecOn with
  | ind place ih =>
    have htaken : key (slotNames index) words '' Set.Iio place =
        {name | (shown (slotNames index) (words.take place)).has name} :=
      Set.ext fun name => (has_take (Nat.le_of_lt h)).symm
    rw [htaken]
    refine names_nameFor fun hge name hown => ?_
    -- The word in the place that shares the slot took the name, if it was still free.
    have hlt : (UInt32.ofNat place).toNat < place := (UInt32.toNat_lt_size _).trans_le hge
    rw [has_take (Nat.le_of_lt h)]
    by_cases hfree : name ∈ key (slotNames index) words '' Set.Iio (UInt32.ofNat place).toNat
    · exact Set.image_mono (fun earlier hearlier => hearlier.trans hlt) hfree
    · exact ⟨_, hlt, (ih _ hlt (hlt.trans h)).eq_own hown hfree⟩

/-- Every word of a globals area but the status cell shows up once, under a name of its own: its
variable's, or the first made-up one if a word in front of it took that. -/
theorem ofArea_names_each_word (words : List UInt32) (index : ProcedureIndex) :
    (ofArea words index).length = words.length - 1 ∧ Sorted.Increasing (ofArea words index) ∧
    ∃ key : Nat → String,
      Set.BijOn key {place | place + 1 < words.length} {name | (ofArea words index).has name} ∧
      ∀ place, place + 1 < words.length →
        Sorted.find? (key place) (ofArea words index) = words[place + 1]? ∧
        Names index place (key '' Set.Iio place) (key place) ∧
        ∀ name, owner? index place = some name → name ∉ key '' Set.Iio place →
          Sorted.find? name (ofArea words index) = words[place + 1]? := by
  have hlength : words.tail.length = words.length - 1 := List.length_tail
  have hplaces : {place | place + 1 < words.length} = Set.Iio words.tail.length := by
    ext place
    simp only [Set.mem_ofPred_eq, Set.mem_Iio]
    omega
  have hincreasing := increasing_shown (slotNames index) words.tail
  have hfind : ∀ place, place + 1 < words.length →
      Sorted.find? (key (slotNames index) words.tail place) (ofArea words index) =
        words[place + 1]? := by
    intro place hplace
    rw [List.getElem?_eq_getElem hplace]
    refine (Sorted.find?_eq_some hincreasing).2 (mem_shown.2 ⟨place, ?_, rfl⟩)
    rw [List.getElem?_tail, List.getElem?_eq_getElem hplace]
  refine ⟨(length_shown _ _).trans hlength, hincreasing, key (slotNames index) words.tail,
    ⟨?mapsTo, ?injOn, ?surjOn⟩, ?each⟩
  case mapsTo =>
    intro place hplace
    rw [Set.mem_ofPred_eq, has, hfind place hplace, List.getElem?_eq_getElem hplace]
    rfl
  case injOn =>
    rw [hplaces]
    exact key_injOn _ _
  case surjOn =>
    intro name hname
    obtain ⟨⟨_, word⟩, hmem, rfl⟩ := List.mem_map.1 (has_iff.1 hname)
    obtain ⟨place, hword, hkey⟩ := mem_shown.1 hmem
    rw [hplaces]
    exact ⟨place, (List.getElem?_eq_some_iff.1 hword).1, hkey⟩
  case each =>
    intro place hplace
    have hnames := names_key index (show place < words.tail.length by omega)
    refine ⟨hfind place hplace, hnames, fun name hown hfree => ?_⟩
    rw [← hnames.eq_own hown hfree]
    exact hfind place hplace

example :
    ofArea [0, 10, 20] (.ofList [⟨0, "main", [⟨"?1", none⟩], [], none, none⟩]) =
      [("?1", 10), ("?1.1", 20)] := by
  decide +kernel

end BoardDebug.Globals
