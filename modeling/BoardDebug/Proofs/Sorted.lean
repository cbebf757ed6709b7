import Mathlib.Data.List.Induction
import BoardDebug.Sorted

namespace BoardDebug.Sorted

variable {κ υ : Type}

/-- The keys increase, so that no two of them are equal. -/
def Increasing [LT κ] (pairs : List (κ × υ)) : Prop :=
  pairs.Pairwise fun a b => a.1 < b.1

variable [LT κ] [DecidableLT κ] [DecidableEq κ]

theorem ofList_concat (pairs : List (κ × υ)) (pair : κ × υ) :
    ofList (pairs ++ [pair]) = insert pair.1 pair.2 (ofList pairs) := by
  simp [ofList]

/-- Other values do not change the order of the keys. -/
theorem insert_map {ω : Type} (f : υ → ω) (key : κ) (value : υ) (pairs : List (κ × υ)) :
    insert key (f value) (pairs.map fun pair => (pair.1, f pair.2)) =
      (insert key value pairs).map fun pair => (pair.1, f pair.2) := by
  induction pairs with
  | nil => rfl
  | cons first rest ih =>
    rw [List.map_cons, insert, insert, ih]
    split
    · rfl
    · split <;> rfl

theorem ofList_map {ω : Type} (f : υ → ω) (pairs : List (κ × υ)) :
    ofList (pairs.map fun pair => (pair.1, f pair.2)) =
      (ofList pairs).map fun pair => (pair.1, f pair.2) := by
  induction pairs using List.reverseRecOn with
  | nil => rfl
  | append_singleton pairs last ih =>
    rw [List.map_append, List.map_singleton, ofList_concat, ofList_concat, ih]
    exact insert_map f last.1 last.2 (ofList pairs)

omit [LT κ] [DecidableLT κ] in
theorem find?_map {ω : Type} (f : υ → ω) (key : κ) (pairs : List (κ × υ)) :
    find? key (pairs.map fun pair => (pair.1, f pair.2)) = (find? key pairs).map f := by
  simp only [find?, List.find?_map, Option.map_map]
  rfl

omit [LT κ] [DecidableLT κ] in
theorem find?_cons (key : κ) (pair : κ × υ) (pairs : List (κ × υ)) :
    find? key (pair :: pairs) = if key = pair.1 then some pair.2 else find? key pairs := by
  unfold find?
  by_cases hkey : pair.1 = key
  · simp [hkey]
  · simp [hkey, Ne.symm hkey]

variable [LE κ] [Std.IsLinearOrder κ] [Std.LawfulOrderLT κ] {key : κ} {value : υ}
  {pairs : List (κ × υ)} {pair : κ × υ}

/-- The new pair replaces the one of its key, and no other one. -/
theorem mem_insert (h : Increasing pairs) :
    pair ∈ insert key value pairs ↔ pair = (key, value) ∨ pair.1 ≠ key ∧ pair ∈ pairs := by
  induction pairs with
  | nil => simp [insert]
  | cons first rest ih =>
    obtain ⟨k, v⟩ := first
    obtain ⟨hfirst, hrest⟩ := List.pairwise_cons.1 h
    unfold insert
    split
    case isTrue hlt =>
      have hne : pair ∈ (k, v) :: rest → pair.1 ≠ key := by
        intro hpair
        obtain rfl | hpair := List.mem_cons.1 hpair
        · exact (Std.ne_of_lt hlt).symm
        · exact (Std.ne_of_lt (Std.lt_trans hlt (hfirst pair hpair))).symm
      rw [List.mem_cons]
      exact or_congr_right ⟨fun hpair => ⟨hne hpair, hpair⟩, fun hpair => hpair.2⟩
    case isFalse hlt =>
      split
      case isTrue heq =>
        subst heq
        have hne : pair ∈ rest → pair.1 ≠ key := fun hpair =>
          (Std.ne_of_lt (hfirst pair hpair)).symm
        rw [List.mem_cons]
        refine or_congr_right ⟨fun hpair => ⟨hne hpair, List.mem_cons_of_mem _ hpair⟩, ?_⟩
        rintro ⟨hpair, hmem⟩
        obtain rfl | hmem := List.mem_cons.1 hmem
        · exact absurd rfl hpair
        · exact hmem
      case isFalse hne =>
        have hfirst : pair = (k, v) → pair.1 ≠ key := by
          rintro rfl heq
          exact hne heq.symm
        rw [List.mem_cons, ih hrest, List.mem_cons]
        grind

theorem increasing_insert (h : Increasing pairs) : Increasing (insert key value pairs) := by
  induction pairs with
  | nil => exact List.pairwise_singleton _ _
  | cons first rest ih =>
    obtain ⟨k, v⟩ := first
    obtain ⟨hfirst, hrest⟩ := List.pairwise_cons.1 h
    unfold insert
    split
    case isTrue hlt =>
      refine List.pairwise_cons.2 ⟨?_, h⟩
      intro later hlater
      obtain rfl | hlater := List.mem_cons.1 hlater
      · exact hlt
      · exact Std.lt_trans hlt (hfirst later hlater)
    case isFalse hlt =>
      split
      case isTrue heq =>
        subst heq
        exact List.pairwise_cons.2 ⟨hfirst, hrest⟩
      case isFalse hne =>
        refine List.pairwise_cons.2 ⟨?_, ih hrest⟩
        intro later hlater
        obtain rfl | ⟨-, hlater⟩ := (mem_insert hrest).1 hlater
        · obtain hgt | heq | hgt := Std.lt_trichotomy k key
          · exact hgt
          · exact absurd heq.symm hne
          · exact absurd hgt hlt
        · exact hfirst later hlater

theorem increasing_ofList (pairs : List (κ × υ)) : Increasing (ofList pairs) := by
  -- The fold keeps the order of whatever it begins with.
  have hfold : ∀ sorted : List (κ × υ), Increasing sorted →
      Increasing (pairs.foldl (fun sorted pair => insert pair.1 pair.2 sorted) sorted) := by
    induction pairs with
    | nil => exact fun _ h => h
    | cons pair pairs ih => exact fun sorted h => ih _ (increasing_insert h)
  exact hfold [] .nil

/-- A key past all others comes last. -/
theorem insert_eq_concat (h : ∀ pair ∈ pairs, pair.1 < key) :
    insert key value pairs = pairs ++ [(key, value)] := by
  induction pairs with
  | nil => rfl
  | cons first rest ih =>
    obtain ⟨hfirst, hrest⟩ := List.forall_mem_cons.1 h
    have hlt : ¬key < first.1 := fun hlt => Std.ne_of_lt (Std.lt_trans hlt hfirst) rfl
    have hne : key ≠ first.1 := (Std.ne_of_lt hfirst).symm
    rw [insert, if_neg hlt, if_neg hne, ih hrest, List.cons_append]

/-- Pairs whose keys increase are left as they are. -/
theorem ofList_eq_self (h : Increasing pairs) : ofList pairs = pairs := by
  -- The fold adds the rest behind what it begins with.
  have hfold : ∀ sorted : List (κ × υ), Increasing (sorted ++ pairs) →
      pairs.foldl (fun sorted pair => insert pair.1 pair.2 sorted) sorted = sorted ++ pairs := by
    clear h
    induction pairs with
    | nil => simp
    | cons pair rest ih =>
      intro sorted h
      have hlast : ∀ first ∈ sorted, first.1 < pair.1 := fun first hfirst =>
        (List.pairwise_append.1 h).2.2 first hfirst pair List.mem_cons_self
      rw [List.append_cons] at h ⊢
      rw [List.foldl_cons, insert_eq_concat hlast, ih _ h]
  exact hfold [] h

omit [DecidableEq κ] [DecidableLT κ] [LE κ] [Std.IsLinearOrder κ] [Std.LawfulOrderLT κ] in
/-- The first pair that is looked for has the lowest key of all of them. -/
theorem lowest_of_find? {wanted : κ × υ → Bool} {found : κ × υ} (h : Increasing pairs)
    (hfound : pairs.find? wanted = some found) (hpair : pair ∈ pairs) (hwanted : wanted pair) :
    pair = found ∨ found.1 < pair.1 := by
  induction pairs with
  | nil => cases hpair
  | cons first rest ih =>
    obtain ⟨hfirst, hrest⟩ := List.pairwise_cons.1 h
    by_cases hcase : wanted first
    · rw [List.find?_cons_of_pos hcase, Option.some.injEq] at hfound
      subst hfound
      obtain rfl | hpair := List.mem_cons.1 hpair
      · exact .inl rfl
      · exact .inr (hfirst pair hpair)
    · rw [List.find?_cons_of_neg hcase] at hfound
      obtain rfl | hpair := List.mem_cons.1 hpair
      · exact absurd hwanted hcase
      · exact ih hrest hfound hpair

omit [LE κ] [Std.IsLinearOrder κ] [Std.LawfulOrderLT κ] in
/-- The pair of a new key is added to the others. -/
theorem insert_perm (h : ∀ pair ∈ pairs, pair.1 ≠ key) :
    (insert key value pairs).Perm ((key, value) :: pairs) := by
  induction pairs with
  | nil => exact .refl _
  | cons first rest ih =>
    obtain ⟨hfirst, hrest⟩ := List.forall_mem_cons.1 h
    rw [insert, if_neg (Ne.symm hfirst)]
    split
    · exact .refl _
    · exact ((ih hrest).cons first).trans (.swap _ _ _)

omit [DecidableLT κ] [Std.IsLinearOrder κ] in
theorem find?_eq_some (h : Increasing pairs) :
    find? key pairs = some value ↔ (key, value) ∈ pairs := by
  unfold find?
  rw [Option.map_eq_some_iff]
  constructor
  · rintro ⟨⟨k, v⟩, hfound, rfl⟩
    obtain rfl : k = key := by simpa using List.find?_some hfound
    exact List.mem_of_find?_eq_some hfound
  · intro hmem
    cases hfound : pairs.find? fun pair => decide (pair.1 = key) with
    | none => exact absurd (List.find?_eq_none.1 hfound _ hmem) (by simp)
    | some found =>
      have hkey : found.1 = key := by simpa using List.find?_some hfound
      obtain rfl | hlt := lowest_of_find? h hfound hmem (by simp)
      · exact ⟨_, rfl, rfl⟩
      · exact absurd hkey (Std.ne_of_lt hlt)

theorem find?_insert (h : Increasing pairs) (other : κ) :
    find? other (insert key value pairs) =
      if other = key then some value else find? other pairs := by
  ext found
  rw [find?_eq_some (increasing_insert h), mem_insert h]
  split
  case isTrue heq => simp [heq, eq_comm]
  case isFalse hne => simp [hne, find?_eq_some h]

/-- Of the pairs with one key the last counts. -/
theorem find?_ofList (pairs : List (κ × υ)) (key : κ) :
    find? key (ofList pairs) = (pairs.filter (·.1 = key)).getLast?.map (·.2) := by
  induction pairs using List.reverseRecOn with
  | nil => rfl
  | append_singleton pairs last ih =>
    rw [ofList_concat, find?_insert (increasing_ofList pairs), List.filter_append, ih]
    by_cases hcase : last.1 = key
    · simp [hcase]
    · simp [hcase, Ne.symm hcase]

end BoardDebug.Sorted
