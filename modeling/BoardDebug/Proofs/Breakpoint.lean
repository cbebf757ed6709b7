import Mathlib.Data.List.Induction
import BoardDebug.Breakpoint

namespace BoardDebug

namespace Breakpoint

variable {pc : UInt32} {breakpoints : List Breakpoint} {b : Breakpoint}

/-- Of the breakpoints at or below `pc`, `b` has the greatest address, and it is the earliest one
with that address. -/
def IsFloor (pc : UInt32) (breakpoints : List Breakpoint) (b : Breakpoint) : Prop :=
  ∃ before after, breakpoints = before ++ b :: after ∧ b.address ≤ pc ∧
    (∀ a ∈ before, a.address ≤ pc → a.address < b.address) ∧
    ∀ a ∈ after, a.address ≤ pc → a.address ≤ b.address

namespace IsFloor

theorem mem (h : IsFloor pc breakpoints b) : b ∈ breakpoints := by
  obtain ⟨before, after, rfl, -⟩ := h
  exact List.mem_append_right _ List.mem_cons_self

theorem address_le (h : IsFloor pc breakpoints b) : b.address ≤ pc := by
  obtain ⟨_, _, -, hb, -⟩ := h
  exact hb

theorem greatest (h : IsFloor pc breakpoints b) {a : Breakpoint} (ha : a ∈ breakpoints)
    (hle : a.address ≤ pc) : a.address ≤ b.address := by
  obtain ⟨before, after, rfl, -, hbefore, hafter⟩ := h
  rw [List.mem_append, List.mem_cons] at ha
  obtain ha | rfl | ha := ha
  · exact UInt32.le_of_lt (hbefore a ha hle)
  · exact UInt32.le_refl _
  · exact hafter a ha hle

/-- A breakpoint in front does not matter if it lies above `pc` or below the floor. -/
theorem cons (h : IsFloor pc breakpoints b) {first : Breakpoint}
    (hfirst : first.address ≤ pc → first.address < b.address) :
    IsFloor pc (first :: breakpoints) b := by
  obtain ⟨before, after, rfl, hb, hbefore, hafter⟩ := h
  exact ⟨first :: before, after, rfl, hb, List.forall_mem_cons.2 ⟨hfirst, hbefore⟩, hafter⟩

/-- A breakpoint in front takes the place of a floor that does not lie above it. -/
theorem cons_self {first : Breakpoint} (hle : first.address ≤ pc)
    (h : ∀ a ∈ breakpoints, a.address ≤ pc → a.address ≤ first.address) :
    IsFloor pc (first :: breakpoints) first :=
  ⟨[], breakpoints, rfl, hle, by simp, h⟩

end IsFloor

/-- There is no nearest breakpoint exactly if all of them lie above `pc`. -/
theorem nearest_eq_none :
    resolve.nearest pc breakpoints = none ↔ ∀ b ∈ breakpoints, pc < b.address := by
  induction breakpoints with
  | nil => simp [resolve.nearest]
  | cons first rest ih =>
    rw [resolve.nearest, List.forall_mem_cons, ← ih]
    cases resolve.nearest pc rest with
    | some later =>
      by_cases hcase : first.address ≤ pc ∧ later.address ≤ first.address <;> simp [hcase]
    | none => simp

theorem isFloor_of_nearest (h : resolve.nearest pc breakpoints = some b) :
    IsFloor pc breakpoints b := by
  induction breakpoints generalizing b with
  | nil => cases h
  | cons first rest ih =>
    rw [resolve.nearest] at h
    cases hrest : resolve.nearest pc rest with
    | some later =>
      have hlater := ih hrest
      simp only [hrest] at h
      split at h
      case isTrue hcase =>
        cases h
        exact .cons_self hcase.1 fun a ha hle =>
          UInt32.le_trans (hlater.greatest ha hle) hcase.2
      case isFalse hcase =>
        cases h
        exact hlater.cons fun hle => UInt32.not_le.1 fun hge => hcase ⟨hle, hge⟩
    | none =>
      have habove := nearest_eq_none.1 hrest
      simp only [hrest] at h
      split at h
      case isTrue hcase =>
        cases h
        exact .cons_self hcase fun a ha hle => absurd hle (UInt32.not_le.2 (habove a ha))
      case isFalse => cases h

theorem resolve_eq_none : resolve pc breakpoints = none ↔ breakpoints = [] := by
  unfold resolve
  cases h : resolve.nearest pc breakpoints with
  | some b => simpa using List.ne_nil_of_mem (isFloor_of_nearest h).mem
  | none => exact List.head?_eq_none_iff

theorem resolve_of_above (h : ∀ b ∈ breakpoints, pc < b.address) :
    resolve pc breakpoints = breakpoints.head? := by
  rw [resolve, nearest_eq_none.2 h]

theorem exists_floor (h : ∃ a ∈ breakpoints, a.address ≤ pc) :
    ∃ b, resolve pc breakpoints = some b ∧ IsFloor pc breakpoints b := by
  obtain ⟨a, ha, hle⟩ := h
  cases hnearest : resolve.nearest pc breakpoints with
  | some b => exact ⟨b, by rw [resolve, hnearest], isFloor_of_nearest hnearest⟩
  | none => exact absurd hle (UInt32.not_le.2 (nearest_eq_none.1 hnearest a ha))

theorem mem_of_resolve (h : resolve pc breakpoints = some b) : b ∈ breakpoints := by
  unfold resolve at h
  split at h
  case h_1 found hfound =>
    cases h
    exact (isFloor_of_nearest hfound).mem
  case h_2 => exact List.mem_of_head? h

/-- A floor match needs nothing of the order of the breakpoints, and two of them may share an
address or an id. -/
theorem resolve_spec (breakpoints : List Breakpoint) :
    (∀ pc, (resolve pc breakpoints = none ↔ breakpoints = []) ∧
      ((∃ a ∈ breakpoints, a.address ≤ pc) →
        ∃ b, resolve pc breakpoints = some b ∧ IsFloor pc breakpoints b) ∧
      ((∀ a ∈ breakpoints, pc < a.address) → resolve pc breakpoints = breakpoints.head?)) ∧
    (∀ pc pc', pc ≤ pc' → (∃ a ∈ breakpoints, a.address ≤ pc) →
      ∃ low high, resolve pc breakpoints = some low ∧ resolve pc' breakpoints = some high ∧
        low.address ≤ high.address) ∧
    ∀ table, BreakpointTable.ofList? breakpoints = some table →
      ∀ pc, resolve pc breakpoints = some (table.resolve pc) := by
  refine ⟨fun pc => ⟨resolve_eq_none, exists_floor, resolve_of_above⟩, ?monotone, ?table⟩
  case monotone =>
    intro pc pc' hle hsome
    obtain ⟨low, hlow, hfloor⟩ := exists_floor hsome
    -- The floor of `pc` lies below `pc'` too, so it bounds the floor of `pc'`.
    have hbelow : low.address ≤ pc' := UInt32.le_trans hfloor.address_le hle
    obtain ⟨high, hhigh, hfloor'⟩ := exists_floor ⟨low, hfloor.mem, hbelow⟩
    exact ⟨low, high, hlow, hhigh, hfloor'.greatest hfloor.mem hbelow⟩
  case table =>
    intro table htable pc
    cases breakpoints with
    | nil => cases htable
    | cons first others =>
      cases htable
      cases h : resolve pc (first :: others) with
      | none => exact absurd (resolve_eq_none.1 h) (List.cons_ne_nil _ _)
      | some b => rw [BreakpointTable.resolve, BreakpointTable.toList, h, Option.getD_some]

example :
    resolve 0x2800 [⟨0, 0x1000, []⟩, ⟨5, 0x3000, []⟩, ⟨4, 0x2000, []⟩, ⟨6, 0x2000, []⟩] =
      some ⟨4, 0x2000, []⟩ := by
  decide

end Breakpoint

namespace BreakpointTable

open Breakpoint (IsFloor)

theorem resolve_mem (table : BreakpointTable) (pc : UInt32) :
    table.resolve pc ∈ table.toList := by
  unfold resolve
  cases h : Breakpoint.resolve pc table.toList with
  | some b => exact Breakpoint.mem_of_resolve h
  | none => exact List.mem_cons_self

theorem isFloor_resolve {table : BreakpointTable} {pc : UInt32}
    (h : ∃ a ∈ table.toList, a.address ≤ pc) : IsFloor pc table.toList (table.resolve pc) := by
  obtain ⟨b, hb, hfloor⟩ := Breakpoint.exists_floor h
  rwa [resolve, hb]

/-- Of the placed breakpoints, `b` has the least address, and it is the earliest one with that
address. -/
def IsLowestPlaced (breakpoints : List Breakpoint) (b : Breakpoint) : Prop :=
  ∃ before after, breakpoints = before ++ b :: after ∧ b.address ≠ 0 ∧
    (∀ a ∈ before, a.address ≠ 0 → b.address < a.address) ∧
    ∀ a ∈ after, a.address ≠ 0 → b.address ≤ a.address

/-- The fold keeps the earliest of the lowest breakpoints seen so far. -/
theorem foldl_lower (b : Breakpoint) (rest : List Breakpoint) :
    ∃ before after, b :: rest = before ++ rest.foldl lower b :: after ∧
      (∀ a ∈ before, (rest.foldl lower b).address < a.address) ∧
      ∀ a ∈ after, (rest.foldl lower b).address ≤ a.address := by
  induction rest using List.reverseRecOn with
  | nil => exact ⟨[], [], rfl, by simp, by simp⟩
  | append_singleton rest last ih =>
    obtain ⟨before, after, hsplit, hbefore, hafter⟩ := ih
    rw [List.foldl_append, List.foldl_cons, List.foldl_nil, lower, ← List.cons_append, hsplit]
    split
    case isTrue hlast =>
      refine ⟨_, [], rfl, ?_, by simp⟩
      intro a ha
      rw [List.mem_append, List.mem_cons] at ha
      obtain ha | rfl | ha := ha
      · exact UInt32.lt_trans hlast (hbefore a ha)
      · exact hlast
      · exact UInt32.lt_of_lt_of_le hlast (hafter a ha)
    case isFalse hlast =>
      refine ⟨before, after ++ [last], by simp, hbefore, ?_⟩
      rw [List.forall_mem_append, List.forall_mem_singleton]
      exact ⟨hafter, UInt32.not_lt.1 hlast⟩

theorem entry?_eq_none {table : BreakpointTable} :
    table.entry? = none ↔ ∀ b ∈ table.others, b.address = 0 := by
  unfold entry?
  split
  case h_1 h => simpa using h
  case h_2 b rest h =>
    have hb : b ∈ table.others.filter (·.address ≠ 0) := h ▸ List.mem_cons_self
    obtain ⟨hmem, hne⟩ := List.mem_filter.1 hb
    exact iff_of_false (Option.some_ne_none _) fun hzero => of_decide_eq_true hne (hzero b hmem)

theorem isLowestPlaced_entry {table : BreakpointTable} {b : Breakpoint}
    (h : table.entry? = some b) : IsLowestPlaced table.others b := by
  unfold entry? at h
  split at h
  case h_1 => cases h
  case h_2 first rest hplaced =>
    cases h
    obtain ⟨before, after, hsplit, hbefore, hafter⟩ := foldl_lower first rest
    -- What is placed in front of the lowest one is placed in front of it in the whole table.
    rw [hsplit, List.filter_eq_append_iff] at hplaced
    obtain ⟨front, tail, hothers, rfl, htail⟩ := hplaced
    obtain ⟨unplaced, back, rfl, hunplaced, hb, rfl⟩ := List.filter_eq_cons_iff.1 htail
    refine ⟨front ++ unplaced, back, by simp [hothers], of_decide_eq_true hb, ?_, ?_⟩
    · intro a ha hne
      obtain ha | ha := List.mem_append.1 ha
      · exact hbefore a (List.mem_filter.2 ⟨ha, decide_eq_true hne⟩)
      · exact absurd (decide_eq_true hne) (hunplaced a ha)
    · intro a ha hne
      exact hafter a (List.mem_filter.2 ⟨ha, decide_eq_true hne⟩)

/-- The addresses that a list of ids stands for, in order: an id stands for the first breakpoint
that has it, and for nothing if there is none. -/
inductive Addresses (table : BreakpointTable) : List UInt32 → List UInt32 → Prop where
  | nil : Addresses table [] []
  | known {ids addresses : List UInt32} (before after : List Breakpoint) (b : Breakpoint) :
    table.toList = before ++ b :: after → (∀ a ∈ before, a.id ≠ b.id) →
      Addresses table ids addresses → Addresses table (b.id :: ids) (b.address :: addresses)
  | unknown {id : UInt32} {ids addresses : List UInt32} :
    (∀ a ∈ table.toList, a.id ≠ id) →
      Addresses table ids addresses → Addresses table (id :: ids) addresses

theorem addresses_successors (table : BreakpointTable) (b : Breakpoint) :
    table.Addresses b.successors (table.successorAddresses b) := by
  unfold successorAddresses
  induction b.successors with
  | nil => exact .nil
  | cons id ids ih =>
    cases h : table.get? id with
    | none =>
      rw [List.filterMap_cons_none (by rw [h]; rfl)]
      exact .unknown (by simpa [get?] using h) ih
    | some found =>
      rw [List.filterMap_cons_some (by rw [h]; rfl)]
      obtain ⟨hid, before, after, hsplit, hbefore⟩ := List.find?_eq_some_iff_append.1 h
      obtain rfl : found.id = id := by simpa using hid
      exact .known before after found hsplit (by simpa using hbefore) ih

theorem mem_of_mem_successorAddresses {table : BreakpointTable} {b : Breakpoint} {a : UInt32}
    (h : a ∈ table.successorAddresses b) : ∃ found ∈ table.toList, found.address = a := by
  obtain ⟨id, -, hid⟩ := List.mem_filterMap.1 h
  obtain ⟨found, hfound, rfl⟩ := Option.map_eq_some_iff.1 hid
  exact ⟨found, List.mem_of_find?_eq_some hfound, rfl⟩

/-- The addresses that the device is asked to stop at: the one of the entry, and those that a step
from some breakpoint can lead to. -/
def Arms (table : BreakpointTable) (a : UInt32) : Prop :=
  (∃ b, table.entry? = some b ∧ b.address = a) ∨ ∃ b, a ∈ table.successorAddresses b

theorem Arms.exists_mem {table : BreakpointTable} {a : UInt32} (h : table.Arms a) :
    ∃ b ∈ table.toList, b.address = a := by
  obtain ⟨b, hb, rfl⟩ | ⟨b, hb⟩ := h
  · obtain ⟨before, after, hsplit, -⟩ := isLowestPlaced_entry hb
    have hmem : b ∈ table.others := hsplit ▸ List.mem_append_right _ List.mem_cons_self
    exact ⟨b, List.mem_cons_of_mem _ hmem, rfl⟩
  · exact mem_of_mem_successorAddresses hb

/-- The entry, the successors and the floor match look breakpoints up in three ways, and they agree:
a halt at an armed address, or behind it and before the next breakpoint, is explained by a
breakpoint of that address. -/
theorem resolve_armed (table : BreakpointTable) :
    (table.entry? = none ↔ ∀ b ∈ table.others, b.address = 0) ∧
    (∀ b, table.entry? = some b → IsLowestPlaced table.others b) ∧
    (∀ b, table.Addresses b.successors (table.successorAddresses b)) ∧
    ∀ a, table.Arms a → ∀ pc, a ≤ pc →
      (∀ b ∈ table.toList, ¬(a < b.address ∧ b.address ≤ pc)) → (table.resolve pc).address = a := by
  refine ⟨entry?_eq_none, fun b => isLowestPlaced_entry, table.addresses_successors, ?_⟩
  intro a harms pc hle hgap
  obtain ⟨b, hb, rfl⟩ := harms.exists_mem
  have hfloor : IsFloor pc table.toList (table.resolve pc) := isFloor_resolve ⟨b, hb, hle⟩
  have hge : b.address ≤ (table.resolve pc).address := hfloor.greatest hb hle
  have hlt : ¬b.address < (table.resolve pc).address := fun hlt =>
    hgap _ (table.resolve_mem pc) ⟨hlt, hfloor.address_le⟩
  exact UInt32.le_antisymm (UInt32.not_lt.1 hlt) hge

end BreakpointTable

end BoardDebug
