import BoardDebug.Procedure
import BoardDebug.Proofs.Sorted
import Mathlib.Data.Finset.Card
import Mathlib.Data.List.MinMax

namespace BoardDebug

namespace Procedure

/-- The procedures that count: the last one of each index. -/
def standing : List Procedure → List Procedure
  | [] => []
  | p :: rest => if ∃ q ∈ rest, q.index = p.index then standing rest else p :: standing rest

/-- The procedure that a halt at `pc` has landed in: of those with a landing pad there and a body,
the one with the lowest index. -/
def landing? (procedures : List Procedure) (pc : UInt32) : Option Procedure :=
  (procedures.filter fun p => p.landingPad = some pc ∧ p.bodyStart.isSome).argmin (·.index.toNat)

/-- The place that counts for a halt at `pc`. -/
def place (procedures : List Procedure) (pc : UInt32) : UInt32 :=
  ((landing? procedures pc).bind (·.bodyStart)).getD pc

theorem mem_standing_concat (procedures : List Procedure) (p q : Procedure) :
    p ∈ standing (procedures ++ [q]) ↔ p = q ∨ p.index ≠ q.index ∧ p ∈ standing procedures := by
  induction procedures with
  | nil => simp [standing]
  | cons first rest ih =>
    simp only [List.cons_append, standing]
    -- The first one counts unless its index comes again, in the rest or with `q`.
    by_cases hlater : ∃ x ∈ rest, x.index = first.index
    · have hlater' : ∃ x ∈ rest ++ [q], x.index = first.index := by
        obtain ⟨x, hx, heq⟩ := hlater
        exact ⟨x, List.mem_append_left _ hx, heq⟩
      rw [if_pos hlater, if_pos hlater', ih]
    · rw [if_neg hlater]
      by_cases hq : q.index = first.index
      · rw [if_pos ⟨q, by simp, hq⟩, ih]
        grind
      · have hlater' : ¬∃ x ∈ rest ++ [q], x.index = first.index := by
          grind
        rw [if_neg hlater']
        grind

/-- The pairs of an index are the procedures that count, each with its index. -/
theorem mem_ofList_iff (procedures : List Procedure) (pair : UInt32 × Procedure) :
    pair ∈ Sorted.ofList (procedures.map fun p => (p.index, p)) ↔
      pair.1 = pair.2.index ∧ pair.2 ∈ standing procedures := by
  induction procedures using List.reverseRecOn with
  | nil => simp [Sorted.ofList, standing]
  | append_singleton procedures p ih =>
    rw [List.map_append, List.map_singleton, Sorted.ofList_concat,
      Sorted.mem_insert (Sorted.increasing_ofList _), ih, mem_standing_concat]
    grind

end Procedure

open Procedure

/-- The index finds the procedure that a halt has landed in, among those that count. -/
theorem ProcedureIndex.landingAt?_ofList (procedures : List Procedure) (pc : UInt32) :
    (ofList procedures).landingAt? pc = landing? (standing procedures) pc := by
  have hincreasing := Sorted.increasing_ofList (procedures.map fun p => (p.index, p))
  have hmem := mem_ofList_iff procedures
  unfold landingAt? ofList
  dsimp only
  rw [List.find?_map]
  cases hlanding : landing? (standing procedures) pc with
  | none =>
    have hnone := List.argmin_eq_none.1 hlanding
    rw [List.filter_eq_nil_iff] at hnone
    rw [Option.map_eq_none_iff, List.find?_eq_none]
    intro pair hpair
    have hstands := hnone pair.2 ((hmem pair).1 hpair).2
    simpa using hstands
  | some p =>
    have hp := List.argmin_mem hlanding
    rw [List.mem_filter] at hp
    obtain ⟨hstands, hlands⟩ := hp
    have hpair := (hmem (p.index, p)).2 ⟨rfl, hstands⟩
    have hwanted : ((fun p => p.landingPad == some pc && p.bodyStart.isSome) ∘ Prod.snd)
        (p.index, p) = true := by simpa using hlands
    obtain ⟨found, hfound⟩ := Option.isSome_iff_exists.1
      (List.find?_isSome.2 ⟨_, hpair, hwanted⟩)
    rw [hfound]
    obtain rfl | hlt := Sorted.lowest_of_find? hincreasing hfound hpair hwanted
    · rfl
    · -- What was found instead would have a lower index than the lowest one.
      obtain ⟨hkey, hfoundStands⟩ := (hmem found).1 (List.mem_of_find?_eq_some hfound)
      have hfoundWanted := List.find?_some hfound
      have hfoundLands : found.2 ∈ (standing procedures).filter fun p =>
          p.landingPad = some pc ∧ p.bodyStart.isSome :=
        List.mem_filter.2 ⟨hfoundStands, by simpa using hfoundWanted⟩
      have hlow : p.index.toNat ≤ found.2.index.toNat :=
        List.le_of_mem_argmin (f := fun p : Procedure => p.index.toNat) hfoundLands hlanding
      have hlt' : found.2.index.toNat < p.index.toNat := by
        rw [← UInt32.lt_iff_toNat_lt, ← hkey]
        exact hlt
      omega

/-- The place that a session takes a halt for. -/
theorem Procedure.place_eq (procedures : List Procedure) (pc : UInt32) :
    (((ProcedureIndex.ofList procedures).landingAt? pc).bind (·.bodyStart)).getD pc =
      place (standing procedures) pc := by
  rw [ProcedureIndex.landingAt?_ofList]
  rfl

namespace Procedure

variable {procedures : List Procedure} {p : Procedure} {site : CallSite}

/-- The calls of all procedures in their order, each with the procedure that makes it. -/
def callsIn (procedures : List Procedure) : List (Procedure × CallSite) :=
  procedures.flatMap fun p => p.calls.map fun site => (p, site)

/-- A call of a procedure that does not exist. -/
def Dangles (procedures : List Procedure) (site : CallSite) : Prop :=
  ∀ p ∈ procedures, p.index ≠ site.callee

instance : DecidablePred (Dangles procedures) := fun _ => inferInstanceAs (Decidable (∀ _ ∈ _, _))

/-- A procedure without those of its calls that dangle. -/
def prune (procedures : List Procedure) (p : Procedure) : Procedure :=
  { p with calls := p.calls.filter fun site => ¬Dangles procedures site }

/-- Stepping into a procedure halts at `pc`, and the body can be found from there. -/
def LandsAt (pc : UInt32) (p : Procedure) : Prop :=
  p.landingPad = some pc ∧ p.bodyStart.isSome

theorem mem_callsIn : (p, site) ∈ callsIn procedures ↔ p ∈ procedures ∧ site ∈ p.calls := by
  simp [callsIn]

end Procedure

/-- The same call between other procedures. -/
def CallEdge.map (f : Procedure → Procedure) (edge : CallEdge) : CallEdge :=
  { edge with caller := f edge.caller, callee := f edge.callee }

namespace ProcedureIndex

open Procedure

/-- The same index of other procedures. -/
def map (f : Procedure → Procedure) (index : ProcedureIndex) : ProcedureIndex where
  procedures := index.procedures.map fun pair => (pair.1, f pair.2)
  calls := index.calls.map fun pair => (pair.1, pair.2.map f)
  entry := index.entry.map f

variable (procedures : List Procedure)

/-- Of several procedures with one index the last counts. -/
theorem procedure?_ofList (i : UInt32) :
    (ofList procedures).procedure? i = (procedures.filter (·.index = i)).getLast? := by
  rw [procedure?, ofList, Sorted.find?_ofList, List.filter_map, List.getLast?_map, Option.map_map]
  exact Option.map_id'

theorem procedure?_eq_none {i : UInt32} :
    (ofList procedures).procedure? i = none ↔ ∀ p ∈ procedures, p.index ≠ i := by
  rw [procedure?_ofList, List.getLast?_eq_none_iff, List.filter_eq_nil_iff]
  simp

theorem procedure?_eq_some {i : UInt32} {p : Procedure} :
    (ofList procedures).procedure? i = some p ↔ p.index = i ∧ p ∈ standing procedures := by
  rw [procedure?, ofList, Sorted.find?_eq_some (Sorted.increasing_ofList _), mem_ofList_iff,
    eq_comm]

/-- An index is counted once, however many procedures have it. -/
theorem size_ofList : (ofList procedures).size = (procedures.map (·.index)).toFinset.card := by
  have hkeys : ((ofList procedures).procedures.map (·.1)).toFinset =
      (procedures.map (·.index)).toFinset := by
    ext i
    have hnone := procedure?_eq_none procedures (i := i)
    rw [procedure?, Sorted.find?, Option.map_eq_none_iff, List.find?_eq_none] at hnone
    rw [List.mem_toFinset, List.mem_toFinset, List.mem_map, List.mem_map, ← not_iff_not]
    simpa only [not_exists, not_and, decide_eq_true_eq] using hnone
  have hnodup : ((ofList procedures).procedures.map (·.1)).Nodup :=
    List.pairwise_map.2 ((Sorted.increasing_ofList _).imp Std.ne_of_lt)
  rw [← hkeys, List.toFinset_card_of_nodup hnodup, List.length_map]
  rfl

/-- A call with its address, if its callee is known. -/
def edge? (known : List (UInt32 × Procedure)) (call : Procedure × CallSite) :
    Option (UInt32 × CallEdge) :=
  (Sorted.find? call.2.callee known).map fun callee =>
    (call.2.address, ⟨call.1, callee, call.2.stack⟩)

theorem resolvedCalls_eq (known : List (UInt32 × Procedure)) :
    resolvedCalls known procedures = (callsIn procedures).filterMap (edge? known) := by
  unfold resolvedCalls callsIn
  rw [List.filterMap_flatMap]
  simp only [List.filterMap_map]
  rfl

theorem edge?_eq_none {call : Procedure × CallSite} :
    edge? (ofList procedures).procedures call = none ↔ Dangles procedures call.2 := by
  rw [edge?, Option.map_eq_none_iff]
  exact procedure?_eq_none procedures

theorem edge?_address {known : List (UInt32 × Procedure)} {call : Procedure × CallSite}
    {pair : UInt32 × CallEdge} (h : edge? known call = some pair) : pair.1 = call.2.address := by
  obtain ⟨callee, -, rfl⟩ := Option.map_eq_some_iff.1 h
  rfl

theorem call?_ofList (a : UInt32) :
    (ofList procedures).call? a = (((callsIn procedures).filterMap
      (edge? (ofList procedures).procedures)).filter (·.1 = a)).getLast?.map (·.2) := by
  rw [call?, ← resolvedCalls_eq]
  exact Sorted.find?_ofList _ a

/-- Calls that dangle are no calls at their address. -/
theorem filter_edges_eq_nil {calls : List (Procedure × CallSite)} {a : UInt32} :
    (calls.filterMap (edge? (ofList procedures).procedures)).filter (·.1 = a) = [] ↔
      ∀ call ∈ calls, call.2.address = a → Dangles procedures call.2 := by
  rw [List.filter_eq_nil_iff]
  constructor
  · intro h call hcall haddress
    cases hedge : edge? (ofList procedures).procedures call with
    | none => exact (edge?_eq_none procedures).1 hedge
    | some pair =>
      have hpair := h pair (List.mem_filterMap.2 ⟨call, hcall, hedge⟩)
      simp [edge?_address hedge, haddress] at hpair
  · intro h pair hpair haddress
    obtain ⟨call, hcall, hedge⟩ := List.mem_filterMap.1 hpair
    have hdangles := h call hcall ((edge?_address hedge).symm.trans (by simpa using haddress))
    rw [(edge?_eq_none procedures).2 hdangles] at hedge
    cases hedge

theorem call?_eq_none {a : UInt32} :
    (ofList procedures).call? a = none ↔
      ∀ call ∈ callsIn procedures, call.2.address = a → Dangles procedures call.2 := by
  rw [call?_ofList, Option.map_eq_none_iff, List.getLast?_eq_none_iff, filter_edges_eq_nil]

/-- Of the calls at one address the last that does not dangle counts. -/
theorem call?_of_last {before after : List (Procedure × CallSite)} {caller callee : Procedure}
    {site : CallSite} (hcalls : callsIn procedures = before ++ (caller, site) :: after)
    (hcallee : (ofList procedures).procedure? site.callee = some callee)
    (hafter : ∀ call ∈ after, call.2.address = site.address → Dangles procedures call.2) :
    (ofList procedures).call? site.address = some ⟨caller, callee, site.stack⟩ := by
  have hedge : edge? (ofList procedures).procedures (caller, site) =
      some (site.address, ⟨caller, callee, site.stack⟩) := by
    rw [procedure?] at hcallee
    rw [edge?, hcallee]
    rfl
  rw [call?_ofList, hcalls, List.filterMap_append, List.filterMap_cons_some hedge,
    List.filter_append, List.filter_cons_of_pos (by simp),
    (filter_edges_eq_nil procedures).2 hafter, List.getLast?_concat]
  rfl

theorem callsIn_prune :
    callsIn (procedures.map (prune procedures)) =
      ((callsIn procedures).filter fun call => ¬Dangles procedures call.2).map
        fun call => (prune procedures call.1, call.2) := by
  unfold callsIn
  rw [List.flatMap_map, List.filter_flatMap, List.map_flatMap]
  refine List.flatMap_congr fun p _ => ?_
  rw [List.filter_map, List.map_map]
  rfl

/-- Calls that dangle influence nothing: without them the index is the same, but that the procedures
in it do not have them. -/
theorem ofList_prune :
    ofList (procedures.map (prune procedures)) = (ofList procedures).map (prune procedures) := by
  have hknown : (ofList (procedures.map (prune procedures))).procedures =
      (ofList procedures).procedures.map fun pair => (pair.1, prune procedures pair.2) := by
    simp only [ofList, ← Sorted.ofList_map, List.map_map]
    rfl
  have hedge (call : Procedure × CallSite) :
      edge? (ofList (procedures.map (prune procedures))).procedures
          (prune procedures call.1, call.2) =
        (edge? (ofList procedures).procedures call).map
          fun pair => (pair.1, pair.2.map (prune procedures)) := by
    simp only [edge?, hknown, Sorted.find?_map, Option.map_map]
    rfl
  have hcalls : (callsIn (procedures.map (prune procedures))).filterMap
      (edge? (ofList (procedures.map (prune procedures))).procedures) =
        ((callsIn procedures).filterMap (edge? (ofList procedures).procedures)).map
          fun pair => (pair.1, pair.2.map (prune procedures)) := by
    rw [callsIn_prune, List.filterMap_map, List.filterMap_filter, List.map_filterMap]
    refine List.filterMap_congr fun call _ => ?_
    by_cases hdangles : Dangles procedures call.2
    · simp [hdangles, (edge?_eq_none procedures).2 hdangles]
    · simp [hdangles, hedge]
  have hsorted : (ofList (procedures.map (prune procedures))).calls =
      (ofList procedures).calls.map fun pair => (pair.1, pair.2.map (prune procedures)) := by
    change Sorted.ofList (resolvedCalls (ofList (procedures.map (prune procedures))).procedures _) =
      (Sorted.ofList (resolvedCalls (ofList procedures).procedures procedures)).map _
    rw [resolvedCalls_eq, resolvedCalls_eq, hcalls, Sorted.ofList_map]
  have hentry : (ofList (procedures.map (prune procedures))).entry =
      (ofList procedures).entry.map (prune procedures) := List.head?_map
  rw [map, ← hknown, ← hsorted, ← hentry]

theorem mem_landing {pc : UInt32} {p : Procedure} :
    (p ∈ (standing procedures).filter fun p => p.landingPad = some pc ∧ p.bodyStart.isSome) ↔
      (ofList procedures).procedure? p.index = some p ∧ LandsAt pc p := by
  rw [List.mem_filter, decide_eq_true_eq, procedure?_eq_some, and_iff_right rfl, LandsAt]

/-- A halt lands in the procedure with the lowest index of those that have a landing pad there. -/
theorem landingAt?_eq_some {pc : UInt32} {p : Procedure} :
    (ofList procedures).landingAt? pc = some p ↔
      (ofList procedures).procedure? p.index = some p ∧ LandsAt pc p ∧
        ∀ q, (ofList procedures).procedure? q.index = some q → LandsAt pc q →
          p.index ≤ q.index := by
  rw [landingAt?_ofList]
  have hlow {p q : Procedure} (hp : landing? (standing procedures) pc = some p)
      (hq : (ofList procedures).procedure? q.index = some q) (hlands : LandsAt pc q) :
      p.index ≤ q.index :=
    UInt32.le_iff_toNat_le.2 (List.le_of_mem_argmin (f := fun p : Procedure => p.index.toNat)
      ((mem_landing procedures).2 ⟨hq, hlands⟩) hp)
  constructor
  · intro hp
    obtain ⟨hkept, hlands⟩ := (mem_landing procedures).1 (List.argmin_mem hp)
    exact ⟨hkept, hlands, fun q => hlow hp⟩
  · rintro ⟨hkept, hlands, hlowest⟩
    have hmem := (mem_landing procedures).2 ⟨hkept, hlands⟩
    cases hfound : landing? (standing procedures) pc with
    | none => exact absurd (List.argmin_eq_none.1 hfound) (List.ne_nil_of_mem hmem)
    | some q =>
      -- Neither of the two has the higher index, and an index stands for one procedure.
      obtain ⟨hkept', hlands'⟩ := (mem_landing procedures).1 (List.argmin_mem hfound)
      have hindex := UInt32.le_antisymm (hlow hfound hkept hlands) (hlowest q hkept' hlands')
      rw [← hkept, ← hkept', hindex]

/-- A procedure is found by its index and a call by its address, the last one of several, and calls
of procedures that do not exist might as well not be there. -/
theorem ofList_resolves (procedures : List Procedure) :
    let index := ofList procedures
    (∀ i, index.procedure? i = (procedures.filter (·.index = i)).getLast?) ∧
    index.size = (procedures.map (·.index)).toFinset.card ∧
    (∀ a, (∃ edge, index.call? a = some edge) ↔ ∃ caller ∈ procedures, ∃ site ∈ caller.calls,
      site.address = a ∧ ∃ callee ∈ procedures, callee.index = site.callee) ∧
    (∀ before caller site after, callsIn procedures = before ++ (caller, site) :: after →
      ¬Dangles procedures site →
      (∀ call ∈ after, call.2.address = site.address → Dangles procedures call.2) →
      ∃ callee, index.procedure? site.callee = some callee ∧
        index.call? site.address = some ⟨caller, callee, site.stack⟩) ∧
    ofList (procedures.map (prune procedures)) = index.map (prune procedures) ∧
    index.entry = procedures.head? ∧
    ∀ pc p, index.landingAt? pc = some p ↔ index.procedure? p.index = some p ∧ LandsAt pc p ∧
      ∀ q, index.procedure? q.index = some q → LandsAt pc q → p.index ≤ q.index := by
  intro index
  refine ⟨procedure?_ofList procedures, size_ofList procedures, fun a => ?present, ?last,
    ofList_prune procedures, rfl, fun pc p => landingAt?_eq_some procedures⟩
  case present =>
    rw [← Option.ne_none_iff_exists', ne_eq, call?_eq_none]
    simp only [Dangles, Prod.forall, mem_callsIn, not_forall, ne_eq, not_not, exists_prop]
    constructor
    · rintro ⟨caller, site, ⟨hcaller, hsite⟩, haddress, hcallee⟩
      exact ⟨caller, hcaller, site, hsite, haddress, hcallee⟩
    · rintro ⟨caller, hcaller, site, hsite, haddress, hcallee⟩
      exact ⟨caller, site, ⟨hcaller, hsite⟩, haddress, hcallee⟩
  case last =>
    intro before caller site after hcalls hdangles hafter
    obtain ⟨callee, hcallee⟩ := Option.ne_none_iff_exists'.1
      (mt (procedure?_eq_none procedures).1 hdangles)
    exact ⟨callee, hcallee, call?_of_last procedures hcalls hcallee hafter⟩

/-- The second call at an address dangles, so the first one counts; it is of a later procedure. -/
example :
    let main : Procedure := ⟨0, "main", [], [⟨0x2010, 7, 3⟩, ⟨0x2010, 9, 1⟩], none, none⟩
    let helper : Procedure := ⟨7, "helper", [], [], none, none⟩
    (((ofList [main, helper]).call? 0x2010).map fun edge => (edge.callee.name, edge.stack)) =
      some ("helper", 3) := by
  decide

end ProcedureIndex

end BoardDebug
