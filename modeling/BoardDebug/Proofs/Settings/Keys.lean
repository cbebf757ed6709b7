import BoardDebug.CommandLine.DebugCommand
import BoardDebug.Proofs.Settings.Tidy
import Mathlib.Data.List.Nodup

namespace BoardDebug

open Json (Value)
open Sorted (Increasing)

/-- A value that is a table. -/
def Json.Value.isTable : Value → Bool
  | .object _ => true
  | _ => false

namespace Layer

variable {layer earlier later : Layer} {name part : String} {value : Value}

/-! ### Joining two sources -/

/-- What counts of a key, after what counted before and what a later source gives. -/
def joined (earlier later : Option Value) : Option Value :=
  later.elim earlier fun later => some (earlier.elim later (mergeValue · later))

@[simp] theorem joined_none (earlier : Option Value) : joined earlier none = earlier :=
  rfl

@[simp] theorem none_joined (later : Option Value) : joined none later = later := by
  cases later <;> rfl

@[simp] theorem some_joined (old value : Value) :
    joined (some old) (some value) = some (mergeValue old value) :=
  rfl

theorem joined_eq_none {earlier later : Option Value} :
    joined earlier later = none ↔ earlier = none ∧ later = none := by
  cases earlier <;> cases later <;> simp

theorem joined_eq_some {earlier later : Option Value} : joined earlier later = some value ↔
    later = none ∧ earlier = some value ∨ earlier = none ∧ later = some value ∨
      ∃ old new, earlier = some old ∧ later = some new ∧ mergeValue old new = value := by
  cases earlier <;> cases later <;> simp

theorem merge_cons (rest : Layer) : merge earlier ((name, value) :: rest) =
    merge (Sorted.insert name
      ((Sorted.find? name earlier).elim value (mergeValue · value)) earlier) rest := by
  rw [merge]
  cases Sorted.find? name earlier <;> rfl

/-- Only tables are joined. -/
theorem mergeValue_eq_right {old : Value} (h : ¬(old.isTable ∧ value.isTable)) :
    mergeValue old value = value := by
  cases value with
  | object table =>
    cases old with
    | object => exact absurd ⟨rfl, rfl⟩ h
    | _ => rfl
  | _ => rfl

theorem isTidy_merge_of_forall (hearlier : earlier.IsTidy)
    (hlater : ∀ member ∈ later, member.2.IsTidy ∧
      ∀ old : Value, old.IsTidy → (mergeValue old member.2).IsTidy) :
    (merge earlier later).IsTidy := by
  induction later generalizing earlier with
  | nil => exact hearlier
  | cons first rest ih =>
    obtain ⟨hfirst, hrest⟩ := List.forall_mem_cons.1 hlater
    rw [merge_cons]
    refine ih (hearlier.insert ?_) hrest
    cases hold : Sorted.find? first.1 earlier with
    | none => exact hfirst.1
    | some old => exact hfirst.2 old (hearlier.find? hold)

theorem isTidy_mergeValue (h : value.IsTidy) :
    ∀ old : Value, old.IsTidy → (mergeValue old value).IsTidy := by
  induction h with
  | @object members hnames h ih =>
    intro old hold
    cases hold with
    | object holdnames hold =>
      exact isTidy_object.2 (isTidy_merge_of_forall ⟨holdnames, hold⟩ fun member hmember =>
        ⟨h member hmember, ih member hmember⟩)
    | _ => exact .object hnames h
  | _ =>
    intro old _
    rw [mergeValue_eq_right (by simp [Value.isTable])]
    constructor <;> assumption

theorem IsTidy.merge (hearlier : earlier.IsTidy) (hlater : later.IsTidy) :
    (merge earlier later).IsTidy :=
  isTidy_merge_of_forall hearlier fun member hmember =>
    ⟨hlater.2 member hmember, isTidy_mergeValue (hlater.2 member hmember)⟩

/-- Two sources are joined name by name. -/
theorem find?_merge (hearlier : Increasing earlier) (hlater : Increasing later) (name : String) :
    Sorted.find? name (merge earlier later) =
      joined (Sorted.find? name earlier) (Sorted.find? name later) := by
  induction later generalizing earlier with
  | nil => rfl
  | cons first rest ih =>
    obtain ⟨hfirst, hrest⟩ := List.pairwise_cons.1 hlater
    rw [merge_cons, ih (Sorted.increasing_insert hearlier) hrest, Sorted.find?_insert hearlier,
      Sorted.find?_cons]
    by_cases hname : name = first.1
    · -- The names of the later source increase, so this one does not come again.
      have hnone : Sorted.find? name rest = none := by
        refine Option.eq_none_iff_forall_ne_some.2 fun value hvalue => ?_
        have hmem := (Sorted.find?_eq_some hrest).1 hvalue
        exact Std.ne_of_lt (hfirst _ hmem) hname.symm
      rw [if_pos hname, if_pos hname, hnone, hname]
      rfl
    · rw [if_neg hname, if_neg hname]

/-! ### Sections -/

/-- What a layer gives under a name of a section. -/
def at? (layer : Layer) (part name : String) : Option Value :=
  match Sorted.find? part layer with
  | some (.object table) => Sorted.find? name table
  | _ => none

theorem IsTidy.at? (h : layer.IsTidy) (hvalue : layer.at? part name = some value) :
    value.IsTidy := by
  unfold Layer.at? at hvalue
  split at hvalue
  case h_1 hfound => exact (isTidy_object.1 (h.find? hfound)).find? hvalue
  case h_2 => cases hvalue

/-- All sections are given as tables. -/
def IsSectioned (layer : Layer) : Prop :=
  ∀ part value, Sorted.find? part layer = some value → ∃ table, value = .object table

theorem at?_merge (hearlier : earlier.IsTidy) (hlater : later.IsTidy)
    (hsections : earlier.IsSectioned) (hlaterSections : later.IsSectioned) (part name : String) :
    (merge earlier later).at? part name = joined (earlier.at? part name) (later.at? part name) := by
  unfold at?
  rw [find?_merge hearlier.1 hlater.1]
  cases hnew : Sorted.find? part later with
  | none => rfl
  | some value =>
    obtain ⟨table, rfl⟩ := hlaterSections part value hnew
    cases hold : Sorted.find? part earlier with
    | none => simp only [none_joined]
    | some old =>
      obtain ⟨oldTable, rfl⟩ := hsections part old hold
      simp only [some_joined, mergeValue]
      exact find?_merge (isTidy_object.1 (hearlier.find? hold)).1
        (isTidy_object.1 (hlater.find? hnew)).1 name

theorem IsSectioned.merge (hearlier : earlier.IsTidy) (hlater : later.IsTidy)
    (hsections : earlier.IsSectioned) (hlaterSections : later.IsSectioned) :
    (Layer.merge earlier later).IsSectioned := by
  intro part value hvalue
  rw [find?_merge hearlier.1 hlater.1] at hvalue
  obtain ⟨-, hold⟩ | ⟨-, hnew⟩ | ⟨old, new, hold, hnew, rfl⟩ := joined_eq_some.1 hvalue
  · exact hsections part value hold
  · exact hlaterSections part value hnew
  · obtain ⟨oldTable, rfl⟩ := hsections part old hold
    obtain ⟨table, rfl⟩ := hlaterSections part new hnew
    exact ⟨_, by rw [mergeValue]⟩

/-- If the last value that is given is no table, it is what counts. -/
theorem foldl_joined_of_not_table {given : List (Option Value)}
    (hlast : (given.filterMap id).getLast? = some value) (h : ¬value.isTable) :
    given.foldl joined none = some value := by
  induction given using List.reverseRecOn with
  | nil => cases hlast
  | append_singleton before last ih =>
    rw [List.foldl_append]
    cases last with
    | none => exact ih (by simpa using hlast)
    | some new =>
      obtain rfl : new = value := by simpa using hlast
      cases hold : before.foldl joined none with
      | none => rfl
      | some old =>
        have hnew : mergeValue old new = new := mergeValue_eq_right fun htables => h htables.2
        simp [hnew]

theorem foldl_joined_eq_none {given : List (Option Value)} :
    given.foldl joined none = none ↔ given.filterMap id = [] := by
  induction given using List.reverseRecOn with
  | nil => simp
  | append_singleton before last ih =>
    rw [List.foldl_append, List.filterMap_append, List.append_eq_nil_iff, ← ih]
    cases last <;> simp [joined_eq_none]

/-- Of several values the last one counts, unless it and the one before it are tables. -/
theorem foldl_joined (given : List (Option Value))
    (h : ¬((given.filterMap id).dropLast.getLast?.any Value.isTable ∧
      (given.filterMap id).getLast?.any Value.isTable)) :
    given.foldl joined none = (given.filterMap id).getLast? := by
  induction given using List.reverseRecOn with
  | nil => rfl
  | append_singleton before last ih =>
    rw [List.foldl_append]
    cases last with
    | none => simpa using ih (by simpa using h)
    | some value =>
      have hgiven : (before ++ [some value]).filterMap id = before.filterMap id ++ [value] := by
        simp
      rw [hgiven, List.dropLast_concat, List.getLast?_concat] at h
      rw [hgiven, List.getLast?_concat]
      cases hold : before.foldl joined none with
      | none => rfl
      | some old =>
        have hjoined : mergeValue old value = value := by
          refine mergeValue_eq_right fun ⟨holdTable, htable⟩ => ?_
          have hsome : before.filterMap id ≠ [] := by
            rw [Ne, ← foldl_joined_eq_none, hold]
            simp
          obtain ⟨previous, hprevious⟩ := Option.ne_none_iff_exists'.1
            (mt List.getLast?_eq_none_iff.1 hsome)
          rw [hprevious] at h
          have hplain : ¬previous.isTable := fun hprevious => h ⟨hprevious, htable⟩
          rw [foldl_joined_of_not_table hprevious hplain] at hold
          cases hold
          exact hplain holdTable
        simp [hjoined]

end Layer

namespace Settings

open CommandLine (DebugArguments)
open Reader

/-! ### Keys -/

/-- All that can be set, by the type of its values. -/
inductive Key : Type → Type where
  | logLevel : Key (Option LogLevel)
  | logFile : Key (Option String)
  | vendorId : Key (Option UInt16)
  | productId : Key (Option UInt16)
  | serialNumber : Key (Option String)
  | requestTimeout : Key Nat
  | reconnectTimeout : Key Nat
  | haltStrategy : Key HaltStrategy
  | pollInterval : Key Nat
  | buildCommand : Key (List String)
  | debugInfo : Key String
  | binary : Key String
  | format : Key (Option ImageFormat)
  | baseAddress : Key UInt32

/-- The settings of which no source says anything. -/
def standard : Settings where
  general := ⟨none, none⟩
  device := .standard
  session := .standard
  artifacts := .standard

namespace Key

variable {α : Type}

/-- The section of a key. -/
def part : {α : Type} → Key α → String
  | _, logLevel | _, logFile => "general"
  | _, vendorId | _, productId | _, serialNumber => "device"
  | _, requestTimeout | _, reconnectTimeout => "device"
  | _, haltStrategy | _, pollInterval => "session"
  | _, buildCommand | _, debugInfo | _, binary | _, format | _, baseAddress => "artifacts"

/-- The name of a key in its section. -/
def name : {α : Type} → Key α → String
  | _, logLevel => "log_level"
  | _, logFile => "log_file"
  | _, vendorId => "vendor_id"
  | _, productId => "product_id"
  | _, serialNumber => "serial_number"
  | _, requestTimeout => "request_timeout"
  | _, reconnectTimeout => "reconnect_timeout"
  | _, haltStrategy => "halt_strategy"
  | _, pollInterval => "poll_interval"
  | _, buildCommand => "build_command"
  | _, debugInfo => "debug_info"
  | _, binary => "binary"
  | _, format => "format"
  | _, baseAddress => "base_address"

/-- The values of a key, as sources spell them. -/
def read : {α : Type} → Key α → Reader α
  | _, logLevel => optional (choice LogLevel.keys)
  | _, logFile => optional text
  | _, vendorId => optional halfWord
  | _, productId => optional halfWord
  | _, serialNumber => optional text
  | _, requestTimeout => milliseconds
  | _, reconnectTimeout => milliseconds
  | _, haltStrategy => choice HaltStrategy.keys
  | _, pollInterval => milliseconds
  | _, buildCommand => texts
  | _, debugInfo => text
  | _, binary => text
  | _, format => optional (choice ImageFormat.keys)
  | _, baseAddress => word

/-- What settings say of a key. -/
def get : {α : Type} → Key α → Settings → α
  | _, logLevel, s => s.general.logLevel
  | _, logFile, s => s.general.logFile
  | _, vendorId, s => s.device.vendorId
  | _, productId, s => s.device.productId
  | _, serialNumber, s => s.device.serialNumber
  | _, requestTimeout, s => s.device.requestTimeout
  | _, reconnectTimeout, s => s.device.reconnectTimeout
  | _, haltStrategy, s => s.session.strategy
  | _, pollInterval, s => s.session.pollInterval
  | _, buildCommand, s => s.artifacts.buildCommand
  | _, debugInfo, s => s.artifacts.debugInfo
  | _, binary, s => s.artifacts.binary
  | _, format, s => s.artifacts.format
  | _, baseAddress, s => s.artifacts.baseAddress

/-- What flags give for a key. A device that is named gives both ids and the serial number; without
a serial number it gives none, so that one from before does not count. -/
def flag? : {α : Type} → Key α → DebugArguments → Option α
  | _, vendorId, a => a.device.map fun device => some device.vendorId
  | _, productId, a => a.device.map fun device => some device.productId
  | _, serialNumber, a => a.device.map (·.serialNumber)
  | _, haltStrategy, a => if a.poll then some .poll else none
  | _, buildCommand, a => a.buildCommand
  | _, debugInfo, a => a.debugInfo
  | _, binary, a => a.binary
  | _, format, a => a.format.map some
  | _, baseAddress, a => a.baseAddress
  | _, logLevel, _ | _, logFile, _ => none
  | _, requestTimeout, _ | _, reconnectTimeout, _ | _, pollInterval, _ => none

/-- The value that a source gives for a key, as it is spelled. -/
def spelled? (key : Key α) (source : Layer) : Option Value :=
  source.at? key.part key.name

/-- The value that a source gives for a key. -/
def given? (key : Key α) (source : Layer) : Option α :=
  (key.spelled? source).bind key.read

/-- Flags replace what they give and nothing else. -/
theorem get_apply (key : Key α) (a : DebugArguments) (s : Settings) :
    key.get (a.apply s) = (key.flag? a).getD (key.get s) := by
  obtain ⟨debugInfo, binary, format, baseAddress, buildCommand, poll, device⟩ := a
  cases key with
  | haltStrategy => cases poll <;> rfl
  | format => cases format <;> rfl
  | vendorId => cases device <;> rfl
  | productId => cases device <;> rfl
  | serialNumber => cases device <;> rfl
  | requestTimeout => cases device <;> rfl
  | reconnectTimeout => cases device <;> rfl
  | pollInterval => cases poll <;> rfl
  | _ => rfl

theorem isSome_choice_object {names : List (String × α)} {table : Layer} :
    (choice names (.object table)).isSome ↔
      ∃ first rest, table = (first, .null) :: rest ∧ (names.lookup first).isSome := by
  constructor
  · intro h
    unfold choice at h
    split at h
    case h_1 hvalue => cases hvalue
    case h_2 first rest hvalue =>
      cases hvalue
      exact ⟨first, rest, rfl, h⟩
    case h_3 => cases h
  · rintro ⟨first, rest, rfl, h⟩
    exact h

theorem isSome_optional_object {read : Reader α} {table : Layer} :
    (Reader.optional read (.object table)).isSome ↔ (read (.object table)).isSome := by
  rw [Reader.optional, Option.isSome_map]
  simp

theorem eq_first_of_find? {first name : String} {value found : Value} {rest : Layer}
    (h : Increasing ((first, value) :: rest))
    (hfound : Sorted.find? name ((first, value) :: rest) = some found) (hname : ¬first < name) :
    name = first ∧ found = value := by
  obtain heq | hmem := List.mem_cons.1 ((Sorted.find?_eq_some h).1 hfound)
  · exact Prod.mk.inj heq
  · exact absurd ((List.pairwise_cons.1 h).1 _ hmem) hname

theorem not_lt_first_of_find? {first name : String} {value : Value} {rest : Layer}
    (h : Increasing ((first, value) :: rest))
    (hfound : Sorted.find? name ((first, value) :: rest) ≠ none) : ¬name < first := by
  intro hlt
  obtain ⟨found, hfound⟩ := Option.ne_none_iff_exists'.1 hfound
  obtain ⟨rfl, -⟩ := eq_first_of_find? h hfound (Std.not_gt_of_lt hlt)
  exact Std.lt_irrefl hlt

/-- Of two tables that are joined, the least name of both stands in front. -/
theorem isSome_choice_merge {names : List (String × α)} {old table : Layer} (hold : old.IsTidy)
    (htable : table.IsTidy) (holdRead : (choice names (.object old)).isSome)
    (hread : (choice names (.object table)).isSome) :
    (choice names (.object (Layer.merge old table))).isSome := by
  have hfind := Layer.find?_merge hold.1 htable.1
  have hmerged := (hold.merge htable).1
  obtain ⟨oldFirst, oldRest, rfl, holdFirst⟩ := isSome_choice_object.1 holdRead
  obtain ⟨first, rest, rfl, hfirst⟩ := isSome_choice_object.1 hread
  have hfound : Sorted.find? first (Layer.merge ((oldFirst, .null) :: oldRest)
      ((first, .null) :: rest)) ≠ none := by
    simp [hfind, Layer.joined_eq_none, Sorted.find?_cons first]
  have holdFound : Sorted.find? oldFirst (Layer.merge ((oldFirst, .null) :: oldRest)
      ((first, .null) :: rest)) ≠ none := by
    simp [hfind, Layer.joined_eq_none, Sorted.find?_cons oldFirst]
  rw [isSome_choice_object]
  generalize Layer.merge _ _ = merged at hfind hmerged hfound holdFound
  cases merged with
  | nil => exact absurd rfl hfound
  | cons pair more =>
    obtain ⟨least, value⟩ := pair
    have hleast := hfind least
    rw [Sorted.find?_cons least, if_pos rfl] at hleast
    have hle := not_lt_first_of_find? hmerged hfound
    have holdLe := not_lt_first_of_find? hmerged holdFound
    cases hnew : Sorted.find? least ((first, .null) :: rest) with
    | none =>
      rw [hnew, Layer.joined_none] at hleast
      obtain ⟨rfl, rfl⟩ := eq_first_of_find? hold.1 hleast.symm holdLe
      exact ⟨_, _, rfl, holdFirst⟩
    | some found =>
      obtain ⟨rfl, rfl⟩ := eq_first_of_find? htable.1 hnew hle
      have hnull : value = .null := by
        rw [hnew] at hleast
        cases hwas : Sorted.find? least ((oldFirst, .null) :: oldRest) with
        | none => simpa [hwas] using hleast
        | some was => simpa [hwas, Layer.mergeValue_eq_right, Value.isTable] using hleast
      exact ⟨_, _, by rw [hnull], hfirst⟩

theorem isSome_read_mergeValue (key : Key α) {old value : Value} (hold : old.IsTidy)
    (hvalue : value.IsTidy) (holdRead : (key.read old).isSome) (hread : (key.read value).isSome) :
    (key.read (Layer.mergeValue old value)).isSome := by
  by_cases htables : old.isTable ∧ value.isTable
  · cases old with
    | object oldTable =>
      cases value with
      | object table =>
        have hold := Layer.isTidy_object.1 hold
        have htable := Layer.isTidy_object.1 hvalue
        rw [Layer.mergeValue]
        cases key with
        | haltStrategy => exact isSome_choice_merge hold htable holdRead hread
        | logLevel =>
          rw [read, isSome_optional_object] at holdRead hread ⊢
          exact isSome_choice_merge hold htable holdRead hread
        | format =>
          rw [read, isSome_optional_object] at holdRead hread ⊢
          exact isSome_choice_merge hold htable holdRead hread
        -- Values of all other keys are no tables.
        | _ => cases hread
      | _ => cases htables.2
    | _ => cases htables.1
  · rwa [Layer.mergeValue_eq_right htables]

end Key

/-! ### Sources of the right types -/

/-- A source gives known sections as tables, known names in them, and values that are understood.
Names without a meaning may stand among the artifacts. -/
structure IsWellTyped (source : Layer) : Prop where
  isSectioned : source.IsSectioned
  knows_part : ∀ part, Sorted.find? part source ≠ none →
    ∃ (α : Type) (key : Key α), key.part = part
  knows_name : ∀ part name, source.at? part name ≠ none → part ≠ "artifacts" →
    ∃ (α : Type) (key : Key α), key.part = part ∧ key.name = name
  understood : ∀ {α : Type} (key : Key α) (value : Value), key.spelled? source = some value →
    (key.read value).isSome

variable {earlier later : Layer} {sources : List Layer}

theorem isWellTyped_nil : IsWellTyped [] where
  isSectioned _ _ h := by cases h
  knows_part _ h := absurd rfl h
  knows_name _ _ h := absurd rfl h
  understood _ _ h := by cases h

theorem IsWellTyped.merge (hearlierTidy : earlier.IsTidy) (hlaterTidy : later.IsTidy)
    (hearlier : IsWellTyped earlier) (hlater : IsWellTyped later) :
    IsWellTyped (Layer.merge earlier later) := by
  have hat := Layer.at?_merge hearlierTidy hlaterTidy hearlier.isSectioned hlater.isSectioned
  refine ⟨hearlier.isSectioned.merge hearlierTidy hlaterTidy hlater.isSectioned, ?_, ?_, ?_⟩
  · intro part hpart
    rw [Layer.find?_merge hearlierTidy.1 hlaterTidy.1, Ne, Layer.joined_eq_none,
      not_and_or] at hpart
    exact hpart.elim (hearlier.knows_part part) (hlater.knows_part part)
  · intro part name hname hpart
    rw [hat, Ne, Layer.joined_eq_none, not_and_or] at hname
    exact hname.elim (hearlier.knows_name part name · hpart) (hlater.knows_name part name · hpart)
  · intro α key value hvalue
    rw [Key.spelled?, hat] at hvalue
    obtain ⟨-, hold⟩ | ⟨-, hnew⟩ | ⟨old, new, hold, hnew, rfl⟩ := Layer.joined_eq_some.1 hvalue
    · exact hearlier.understood key value hold
    · exact hlater.understood key value hnew
    · exact key.isSome_read_mergeValue (hearlierTidy.at? hold) (hlaterTidy.at? hnew)
        (hearlier.understood key old hold) (hlater.understood key new hnew)

def Key.all : List ((α : Type) × Key α) :=
  [⟨_, logLevel⟩, ⟨_, logFile⟩, ⟨_, vendorId⟩, ⟨_, productId⟩, ⟨_, serialNumber⟩,
    ⟨_, requestTimeout⟩, ⟨_, reconnectTimeout⟩, ⟨_, haltStrategy⟩, ⟨_, pollInterval⟩,
    ⟨_, buildCommand⟩, ⟨_, debugInfo⟩, ⟨_, binary⟩, ⟨_, format⟩, ⟨_, baseAddress⟩]

theorem Key.mem_all {α : Type} (key : Key α) : ⟨α, key⟩ ∈ all := by
  cases key <;> simp [all]

/-- No two keys have one name. -/
theorem Key.eq_of_name {α β : Type} {key : Key α} {other : Key β} (h : key.name = other.name) :
    (⟨α, key⟩ : (α : Type) × Key α) = ⟨β, other⟩ := by
  have hnames : (all.map (·.2.name)).Nodup := by decide
  exact List.inj_on_of_nodup_map hnames key.mem_all other.mem_all h

/-- A section all of whose entries mean something there. -/
def fits (part : String) : Value → Bool
  | .object table =>
    Key.all.any (·.2.part = part) && table.all fun (name, value) =>
      Key.all.any fun ⟨_, key⟩ => key.part = part && key.name = name && (key.read value).isSome
  | _ => false

/-- Everything in a source means something. -/
def fitsAll (source : Layer) : Bool :=
  source.all fun (part, value) => fits part value

theorem isWellTyped_of_fitsAll {source : Layer} (htidy : source.IsTidy) (h : fitsAll source) :
    IsWellTyped source := by
  have hfits {part : String} {value : Value} (hfound : Sorted.find? part source = some value) :
      fits part value :=
    List.all_eq_true.1 h _ ((Sorted.find?_eq_some htidy.1).1 hfound)
  have htable {part : String} {value : Value} (hfound : Sorted.find? part source = some value) :
      ∃ table, value = .object table ∧ fits part (.object table) := by
    have hvalue := hfits hfound
    cases value with
    | object table => exact ⟨table, rfl, hvalue⟩
    | _ => cases hvalue
  have hentry {part name : String} {value : Value} (hat : source.at? part name = some value) :
      ∃ (α : Type) (key : Key α), key.part = part ∧ key.name = name ∧ (key.read value).isSome := by
    unfold Layer.at? at hat
    split at hat
    case h_1 table hfound =>
      have htable := (Layer.isTidy_object.1 (htidy.find? hfound)).1
      have hall := (Bool.and_eq_true_iff.1 (hfits hfound)).2
      have hany := List.all_eq_true.1 hall _ ((Sorted.find?_eq_some htable).1 hat)
      obtain ⟨⟨α, key⟩, -, hkey⟩ := List.any_eq_true.1 hany
      simp only [Bool.and_eq_true, decide_eq_true_eq] at hkey
      exact ⟨α, key, hkey.1.1, hkey.1.2, hkey.2⟩
    case h_2 => cases hat
  refine ⟨fun part value hfound => ?_, fun part hfound => ?_, fun part name hat _ => ?_,
    fun key value hat => ?_⟩
  · obtain ⟨table, heq, -⟩ := htable hfound
    exact ⟨table, heq⟩
  · obtain ⟨value, hfound⟩ := Option.ne_none_iff_exists'.1 hfound
    obtain ⟨table, rfl, htable⟩ := htable hfound
    obtain ⟨⟨α, key⟩, -, hkey⟩ := List.any_eq_true.1 (Bool.and_eq_true_iff.1 htable).1
    exact ⟨α, key, of_decide_eq_true hkey⟩
  · obtain ⟨value, hat⟩ := Option.ne_none_iff_exists'.1 hat
    obtain ⟨α, key, hpart, hname, -⟩ := hentry hat
    exact ⟨α, key, hpart, hname⟩
  · obtain ⟨α, other, -, hname, hread⟩ := hentry hat
    cases Key.eq_of_name hname
    exact hread

/-! ### All sources -/

/-- A tidy source of the right types. -/
def IsSound (source : Layer) : Prop :=
  source.IsTidy ∧ IsWellTyped source

theorem mergeAll_concat (sources : List Layer) (last : Layer) :
    Layer.mergeAll (sources ++ [last]) = Layer.merge (Layer.mergeAll sources) last := by
  simp [Layer.mergeAll]

theorem isTidy_mergeAll (h : ∀ source ∈ sources, source.IsTidy) :
    (Layer.mergeAll sources).IsTidy := by
  induction sources using List.reverseRecOn with
  | nil => exact Layer.isTidy_nil
  | append_singleton before last ih =>
    obtain ⟨hbefore, hlast⟩ := List.forall_mem_append.1 h
    rw [mergeAll_concat]
    exact (ih hbefore).merge (List.forall_mem_singleton.1 hlast)

theorem isSound_mergeAll (h : ∀ source ∈ sources, IsSound source) :
    IsSound (Layer.mergeAll sources) := by
  refine ⟨isTidy_mergeAll fun source hsource => (h source hsource).1, ?_⟩
  induction sources using List.reverseRecOn with
  | nil => exact isWellTyped_nil
  | append_singleton before last ih =>
    obtain ⟨hbefore, hlast⟩ := List.forall_mem_append.1 h
    obtain ⟨hlastTidy, hlastTyped⟩ := List.forall_mem_singleton.1 hlast
    have htidy := isTidy_mergeAll fun source hsource => (hbefore source hsource).1
    rw [mergeAll_concat]
    exact (ih hbefore).merge htidy hlastTidy hlastTyped

theorem isTidy_layers (environment : List (String × String)) :
    (Environment.layers environment).IsTidy :=
  isTidy_mergeAll (List.forall_mem_map.2 fun v _ => Environment.isTidy_layer v.1 v.2)

theorem at?_mergeAll (h : ∀ source ∈ sources, IsSound source) (part name : String) :
    (Layer.mergeAll sources).at? part name =
      (sources.map (·.at? part name)).foldl Layer.joined none := by
  induction sources using List.reverseRecOn with
  | nil => rfl
  | append_singleton before last ih =>
    obtain ⟨hbefore, hlast⟩ := List.forall_mem_append.1 h
    obtain ⟨htidy, htyped⟩ := isSound_mergeAll hbefore
    obtain ⟨hlastTidy, hlastTyped⟩ := List.forall_mem_singleton.1 hlast
    rw [mergeAll_concat, Layer.at?_merge htidy hlastTidy htyped.isSectioned hlastTyped.isSectioned,
      ih hbefore]
    simp

/-- What one source has is there when all are joined. -/
theorem find?_mergeAll_ne_none (h : ∀ source ∈ sources, IsSound source) {source : Layer}
    (hsource : source ∈ sources) {part : String} (hpart : Sorted.find? part source ≠ none) :
    Sorted.find? part (Layer.mergeAll sources) ≠ none := by
  induction sources using List.reverseRecOn with
  | nil => cases hsource
  | append_singleton before last ih =>
    obtain ⟨hbefore, hlast⟩ := List.forall_mem_append.1 h
    rw [mergeAll_concat, Layer.find?_merge (isSound_mergeAll hbefore).1.1
      (List.forall_mem_singleton.1 hlast).1.1, Ne, Layer.joined_eq_none, not_and_or]
    obtain hsource | hsource := List.mem_append.1 hsource
    · exact .inl (ih hbefore hsource)
    · obtain rfl := List.mem_singleton.1 hsource
      exact .inr hpart

/-! ### The usual settings -/

theorem usual_eq : usual =
    [("artifacts", .object
        [("base_address", .natural 0), ("binary", .text "built/binary.uf2"),
          ("build_command", .list []), ("debug_info", .text "built/debug-info.json")]),
      ("device", .object
        [("reconnect_timeout", .natural 10000), ("request_timeout", .natural 2000)]),
      ("general", .object []),
      ("session", .object [("halt_strategy", .text "auto"), ("poll_interval", .natural 200)])] := by
  rfl

theorem isTidy_usual : Layer.IsTidy usual := by
  refine Layer.isTidy_ofList ?_
  simp only [List.forall_mem_cons, Layer.isTidy_object]
  refine ⟨Layer.isTidy_nil, Layer.isTidy_ofList ?_, Layer.isTidy_ofList ?_, Layer.isTidy_ofList ?_,
    List.forall_mem_nil _⟩
  all_goals
    simp only [List.forall_mem_cons]
  · exact ⟨.natural _, .natural _, List.forall_mem_nil _⟩
  · exact ⟨.text _, .natural _, List.forall_mem_nil _⟩
  · exact ⟨.list (List.forall_mem_nil _), .text _, .text _, .natural _, List.forall_mem_nil _⟩

theorem isWellTyped_usual : IsWellTyped usual :=
  isWellTyped_of_fitsAll isTidy_usual (by decide)

theorem find?_usual_ne_none {α : Type} (key : Key α) : Sorted.find? key.part usual ≠ none := by
  rw [usual_eq]
  cases key <;> decide

/-! ### Reading what all sources come to -/

section OfLayer

variable {table members : Layer} {part : String}

theorem bind_eq_some {α β : Type} {read : Option α} {next : α → Option β} {a : α} {b : β}
    (hread : read = some a) (hnext : next a = some b) : (read >>= next) = some b := by
  rw [hread]
  exact hnext

/-- What settings read from a table say of a key. -/
def Key.value {α : Type} (key : Key α) (table : Layer) : α :=
  (key.given? table).getD (key.get standard)

theorem only_eq_some {names : List String} (hincreasing : Increasing table)
    (h : ∀ name, Sorted.find? name table ≠ none → name ∈ names) : only names table = some () := by
  refine if_pos (List.all_eq_true.2 fun member hmember => List.contains_iff_mem.2 (h _ ?_))
  rw [(Sorted.find?_eq_some hincreasing).2 hmember]
  simp

namespace IsSound

theorem under_eq (h : IsSound table) {α : Type} (key : Key α)
    (hsection : Sorted.find? key.part table = some (.object members)) :
    under members key.name (key.get standard) key.read = some (key.value table) := by
  have hspelled : key.spelled? table = Sorted.find? key.name members := by
    rw [Key.spelled?, Layer.at?, hsection]
  rw [under, Key.value, Key.given?, hspelled]
  cases hvalue : Sorted.find? key.name members with
  | none => rfl
  | some value =>
    obtain ⟨a, ha⟩ := Option.isSome_iff_exists.1 (h.2.understood key value (hspelled.trans hvalue))
    simp [ha]

theorem only_parts (h : IsSound table) :
    only ["general", "device", "session", "artifacts"] table = some () := by
  refine only_eq_some h.1.1 fun part hpart => ?_
  obtain ⟨α, key, rfl⟩ := h.2.knows_part part hpart
  cases key <;> decide

theorem only_names (h : IsSound table) {names : List String}
    (hsection : Sorted.find? part table = some (.object members)) (hpart : part ≠ "artifacts")
    (hnames : ∀ (α : Type) (key : Key α), key.part = part → key.name ∈ names) :
    only names members = some () := by
  refine only_eq_some (Layer.isTidy_object.1 (h.1.find? hsection)).1 fun name hname => ?_
  have hat : table.at? part name ≠ none := by rwa [Layer.at?, hsection]
  obtain ⟨α, key, hkey, rfl⟩ := h.2.knows_name part name hat hpart
  exact hnames α key hkey

/-- A section that is there is a table, so it is read if every table is. -/
theorem needed_eq (h : IsSound table) (hpart : Sorted.find? part table ≠ none) {α : Type}
    {read : Reader α} {a : α}
    (hread : ∀ members, Sorted.find? part table = some (.object members) →
      read (.object members) = some a) : needed table part read = some a := by
  obtain ⟨value, hvalue⟩ := Option.ne_none_iff_exists'.1 hpart
  obtain ⟨members, rfl⟩ := h.2.isSectioned part value hvalue
  rw [needed, hvalue, Option.bind_some, hread members hvalue]

theorem readGeneral_eq (h : IsSound table)
    (hsection : Sorted.find? "general" table = some (.object members)) :
    readGeneral (.object members) =
      some ⟨Key.logLevel.value table, Key.logFile.value table⟩ := by
  refine bind_eq_some rfl <| bind_eq_some (h.only_names hsection (by decide) ?_) <|
    bind_eq_some (h.under_eq .logLevel hsection) <|
    bind_eq_some (h.under_eq .logFile hsection) rfl
  rintro _ ⟨⟩ <;> decide

theorem readDevice_eq (h : IsSound table)
    (hsection : Sorted.find? "device" table = some (.object members)) :
    readDevice (.object members) =
      some ⟨Key.vendorId.value table, Key.productId.value table, Key.serialNumber.value table,
        Key.requestTimeout.value table, Key.reconnectTimeout.value table⟩ := by
  refine bind_eq_some rfl <| bind_eq_some (h.only_names hsection (by decide) ?_) <|
    bind_eq_some (h.under_eq .vendorId hsection) <|
    bind_eq_some (h.under_eq .productId hsection) <|
    bind_eq_some (h.under_eq .serialNumber hsection) <|
    bind_eq_some (h.under_eq .requestTimeout hsection) <|
    bind_eq_some (h.under_eq .reconnectTimeout hsection) rfl
  rintro _ ⟨⟩ <;> decide

theorem readSession_eq (h : IsSound table)
    (hsection : Sorted.find? "session" table = some (.object members)) :
    readSession (.object members) =
      some ⟨Key.haltStrategy.value table, Key.pollInterval.value table⟩ := by
  refine bind_eq_some rfl <| bind_eq_some (h.only_names hsection (by decide) ?_) <|
    bind_eq_some (h.under_eq .haltStrategy hsection) <|
    bind_eq_some (h.under_eq .pollInterval hsection) rfl
  rintro _ ⟨⟩ <;> decide

theorem readArtifacts_eq (h : IsSound table)
    (hsection : Sorted.find? "artifacts" table = some (.object members)) :
    readArtifacts (.object members) =
      some ⟨Key.buildCommand.value table, Key.debugInfo.value table, Key.binary.value table,
        Key.format.value table, Key.baseAddress.value table⟩ :=
  bind_eq_some rfl <| bind_eq_some (h.under_eq .buildCommand hsection) <|
    bind_eq_some (h.under_eq .debugInfo hsection) <|
    bind_eq_some (h.under_eq .binary hsection) <|
    bind_eq_some (h.under_eq .format hsection) <|
    bind_eq_some (h.under_eq .baseAddress hsection) rfl

end IsSound

/-- Sources of the right types give settings, and each key its value. -/
theorem exists_ofLayer? (h : IsSound table)
    (hparts : ∀ {α : Type} (key : Key α), Sorted.find? key.part table ≠ none) :
    ∃ settings, ofLayer? table = some settings ∧
      ∀ {α : Type} (key : Key α), key.get settings = key.value table := by
  have hgeneral := h.needed_eq (hparts .logLevel) fun _ => h.readGeneral_eq
  have hdevice := h.needed_eq (hparts .vendorId) fun _ => h.readDevice_eq
  have hsession := h.needed_eq (hparts .haltStrategy) fun _ => h.readSession_eq
  have hartifacts := h.needed_eq (hparts .binary) fun _ => h.readArtifacts_eq
  refine ⟨_, bind_eq_some h.only_parts <| bind_eq_some hgeneral <| bind_eq_some hdevice <|
    bind_eq_some hsession <| bind_eq_some hartifacts rfl, fun key => ?_⟩
  cases key <;> rfl

end OfLayer

end Settings

end BoardDebug
