import BoardDebug.Proofs.Halt.Latch
import Mathlib.Data.List.Induction

namespace BoardDebug.Latch

/-- What can be done with a latch and with the waits that it handed out. -/
inductive Move where
  | arm
  | setRunning
  | disarm
  | fulfill (pc : UInt32)
  | fail (error : LinkError)
  | drop (wait : Nat)
  | poll (wait : Nat)
deriving DecidableEq

/-- How a move ends the wait that a latch is armed for, if it does. -/
def Move.ends? : Move → Option HaltOutcome
  | arm => some .superseded
  | disarm => some .superseded
  | fulfill pc => some (.halted pc)
  | fail error => some (.failed error)
  | setRunning => none
  | drop _ => none
  | poll _ => none

def after (latch : Latch) : Move → Latch
  | .arm => latch.arm.2
  | .setRunning => latch.setRunning
  | .disarm => latch.disarm
  | .fulfill pc => (latch.fulfill pc).2
  | .fail error => (latch.fail error).2
  | .drop wait => latch.drop wait
  | .poll wait => (latch.poll wait).2

/-- A latch that was new before the given moves. -/
def ofMoves (moves : List Move) : Latch :=
  moves.foldl after new

/-- The number of waits that were handed out. -/
def arms (moves : List Move) : Nat :=
  moves.count .arm

/-- How a wait ends by the moves after the one that handed it out, if it does. -/
def fate (later : List Move) : Option HaltOutcome :=
  later.findSome? Move.ends?

/-- A wait was dropped, or its outcome was taken when it was there. -/
def IsSpent (wait : Nat) (later : List Move) : Prop :=
  .drop wait ∈ later ∨ ∃ first rest, later = first ++ .poll wait :: rest ∧ (fate first).isSome

/-- The last of the moves that end a wait is the arm after the moves `first`. -/
def IsArmedAt (moves first later : List Move) : Prop :=
  moves = first ++ .arm :: later ∧ fate later = none

/-- Somebody has a wait for which the latch is armed. -/
def IsAwaited (moves : List Move) : Prop :=
  ∃ first later, IsArmedAt moves first later ∧ .drop (arms first) ∉ later

variable {latch : Latch} {wait : Nat} {moves first later : List Move} {move : Move}

theorem ofMoves_concat (moves : List Move) (move : Move) :
    ofMoves (moves ++ [move]) = (ofMoves moves).after move := by
  simp [ofMoves]

theorem fate_concat (later : List Move) (move : Move) :
    fate (later ++ [move]) = (fate later).or move.ends? := by
  simp [fate, List.findSome?_append]

theorem fate_concat_eq_none :
    fate (later ++ [move]) = none ↔ fate later = none ∧ move.ends? = none := by
  rw [fate_concat, Option.or_eq_none_iff]

theorem disarm_eq_complete (latch : Latch) : latch.disarm = (latch.complete .superseded).2 := by
  unfold disarm complete
  cases latch.armed <;> rfl

/-- To call a wait off, to fulfill it or to fail it is to fire the latch. -/
theorem after_of_ends {outcome : HaltOutcome} (h : move.ends? = some outcome)
    (hmove : move ≠ .arm) : latch.after move = (latch.complete outcome).2 := by
  cases move with
  | arm => exact absurd rfl hmove
  | disarm =>
    cases h
    exact disarm_eq_complete latch
  | fulfill pc =>
    cases h
    rfl
  | fail error =>
    cases h
    rfl
  | setRunning => cases h
  | drop wait => cases h
  | poll wait => cases h

theorem state_complete_of_ne (h : ∀ running, latch.armed ≠ some ⟨wait, running⟩)
    (outcome : HaltOutcome) : (latch.complete outcome).2.state wait = latch.state wait := by
  unfold complete
  split
  case h_1 => rfl
  case h_2 a harmed =>
    have hne : a.wait ≠ wait := by
      rintro rfl
      exact h a.running harmed
    unfold settle state
    split
    · rw [List.getD_eq_getElem?_getD, List.getElem?_set_ne hne, List.getD_eq_getElem?_getD]
    · rfl

/-- Only a pending wait ends. -/
theorem state_complete_of_ne_pending (h : latch.state wait ≠ .pending) (outcome : HaltOutcome) :
    (latch.complete outcome).2.state wait = latch.state wait := by
  by_cases harmed : ∃ running, latch.armed = some ⟨wait, running⟩
  · obtain ⟨running, harmed⟩ := harmed
    have hwaits : latch.waits[wait]? ≠ some .pending := by
      intro hpending
      simp [state, List.getD_eq_getElem?_getD, hpending] at h
    simp [complete, harmed, settle, hwaits, state]
  · exact state_complete_of_ne (fun running hrunning => harmed ⟨running, hrunning⟩) outcome

theorem length_settle (waits : List WaitState) (wait : Nat) (outcome : HaltOutcome) :
    (settle waits wait outcome).length = waits.length := by
  unfold settle
  split <;> simp

theorem length_complete (latch : Latch) (outcome : HaltOutcome) :
    (latch.complete outcome).2.waits.length = latch.waits.length := by
  unfold complete
  split
  · rfl
  · exact length_settle _ _ _

theorem length_disarm (latch : Latch) : latch.disarm.waits.length = latch.waits.length := by
  rw [disarm_eq_complete, length_complete]

/-- Each arm hands out one wait, and nothing else does. -/
theorem length_after (latch : Latch) (move : Move) :
    (latch.after move).waits.length = latch.waits.length + [move].count .arm := by
  cases move with
  | arm => simp [after, arm, length_disarm]
  | setRunning => rfl
  | disarm => exact length_disarm latch
  | fulfill pc => exact length_complete latch _
  | fail error => exact length_complete latch _
  | drop wait => simp [after, drop]
  | poll wait =>
    simp only [after, poll]
    split <;> simp [drop]

theorem length_ofMoves (moves : List Move) : (ofMoves moves).waits.length = arms moves := by
  induction moves using List.reverseRecOn with
  | nil => rfl
  | append_singleton moves move ih =>
    rw [ofMoves_concat, length_after, ih, arms, arms, List.count_append]

/-- The wait that an arm hands out is numbered by the arms before it. -/
theorem fst_arm_ofMoves (moves : List Move) : (ofMoves moves).arm.1 = arms moves := by
  rw [← length_ofMoves, ← length_disarm]
  rfl

theorem arms_lt (first later : List Move) : arms first < arms (first ++ .arm :: later) := by
  simp only [arms, List.count_append, List.count_cons_self]
  omega

/-- A move that ends a wait ends it for every wait that was there before. -/
theorem state_after_of_ends {outcome : HaltOutcome} (h : move.ends? = some outcome)
    (hwait : wait < latch.waits.length) :
    (latch.after move).state wait = (latch.complete outcome).2.state wait := by
  by_cases hmove : move = .arm
  · subst hmove
    cases h
    have hlt : wait < latch.disarm.waits.length := by rwa [length_disarm]
    rw [← disarm_eq_complete]
    simp [after, arm, state, List.getD_eq_getElem?_getD, List.getElem?_append_left hlt]
  · rw [after_of_ends h hmove]

theorem state_drop_self (latch : Latch) (wait : Nat) : (latch.drop wait).state wait = .gone := by
  by_cases h : wait < latch.waits.length
  · simp [drop, state, List.getD_eq_getElem?_getD, h]
  · simp [drop, state, List.getD_eq_getElem?_getD, h]

theorem state_drop_of_ne (latch : Latch) {other : Nat} (h : other ≠ wait) :
    (latch.drop other).state wait = latch.state wait := by
  simp only [drop, state, List.getD_eq_getElem?_getD]
  rw [List.getElem?_set_ne h]

theorem state_poll_self (latch : Latch) (wait : Nat) :
    (latch.poll wait).2.state wait = if latch.state wait = .pending then .pending else .gone := by
  unfold poll
  cases h : latch.state wait with
  | pending => simpa using h
  | ready outcome => simpa using state_drop_self latch wait
  | gone => simpa using h

theorem state_poll_of_ne (latch : Latch) {other : Nat} (h : other ≠ wait) :
    (latch.poll other).2.state wait = latch.state wait := by
  unfold poll
  cases latch.state other with
  | pending => rfl
  | ready outcome => exact latch.state_drop_of_ne h
  | gone => rfl

/-- What is gone stays gone. -/
theorem state_after_of_gone (hwait : wait < latch.waits.length) (h : latch.state wait = .gone)
    (move : Move) : (latch.after move).state wait = .gone := by
  cases hends : move.ends? with
  | some outcome =>
    rw [state_after_of_ends hends hwait, state_complete_of_ne_pending (by simp [h]), h]
  | none =>
    cases move with
    | setRunning => exact h
    | drop other =>
      by_cases hother : other = wait
      · rw [hother]
        exact latch.state_drop_self wait
      · exact (latch.state_drop_of_ne hother).trans h
    | poll other =>
      by_cases hother : other = wait
      · rw [hother, after, state_poll_self, if_neg (by simp [h])]
      · exact (latch.state_poll_of_ne hother).trans h
    | arm => cases hends
    | disarm => cases hends
    | fulfill pc => cases hends
    | fail error => cases hends

theorem lt_length_of_ne_gone (h : latch.state wait ≠ .gone) : wait < latch.waits.length := by
  by_contra hwait
  exact h (by simp [state, List.getD_eq_getElem?_getD, hwait])

theorem fst_poll (latch : Latch) (wait : Nat) : (latch.poll wait).1 = latch.state wait := by
  unfold poll
  cases h : latch.state wait <;> rfl

theorem armed_poll (latch : Latch) (wait : Nat) : (latch.poll wait).2.armed = latch.armed := by
  unfold poll
  cases latch.state wait <;> rfl

theorem armed_after_eq_none (h : move.ends? = none) :
    (latch.after move).armed = none ↔ latch.armed = none := by
  cases move with
  | setRunning => simp [after, setRunning]
  | drop wait => rfl
  | poll wait =>
    simp only [after]
    rw [armed_poll]
  | arm => cases h
  | disarm => cases h
  | fulfill pc => cases h
  | fail error => cases h

/-- The latch is armed for the wait of the last arm, and counts as running if it was told so. -/
theorem armed_ofMoves (h : IsArmedAt moves first later) :
    (ofMoves moves).armed = some ⟨arms first, decide (.setRunning ∈ later)⟩ := by
  obtain ⟨rfl, hfate⟩ := h
  induction later using List.reverseRecOn with
  | nil =>
    rw [ofMoves_concat, after, armed_arm, fst_arm_ofMoves]
    rfl
  | append_singleton later move ih =>
    obtain ⟨hlater, hends⟩ := fate_concat_eq_none.1 hfate
    have ih := ih hlater
    rw [← List.cons_append, ← List.append_assoc, ofMoves_concat]
    cases move with
    | setRunning => simp [after, setRunning, ih]
    | drop wait => simpa [after, drop] using ih
    | poll wait => simpa [after, armed_poll] using ih
    | arm => cases hends
    | disarm => cases hends
    | fulfill pc => cases hends
    | fail error => cases hends

theorem exists_isArmedAt (h : (ofMoves moves).armed ≠ none) :
    ∃ first later, IsArmedAt moves first later := by
  induction moves using List.reverseRecOn with
  | nil => exact absurd rfl h
  | append_singleton moves move ih =>
    rw [ofMoves_concat] at h
    cases hends : move.ends? with
    | none =>
      rw [ne_eq, armed_after_eq_none hends] at h
      obtain ⟨first, later, rfl, hfate⟩ := ih h
      exact ⟨first, later ++ [move], by simp, fate_concat_eq_none.2 ⟨hfate, hends⟩⟩
    | some outcome =>
      by_cases hmove : move = .arm
      · exact ⟨moves, [], by rw [hmove], rfl⟩
      · rw [after_of_ends hends hmove, armed_complete] at h
        exact absurd rfl h

/-- Where a wait stands that was not dropped and whose outcome was not taken. -/
def standing : Option HaltOutcome → WaitState
  | none => .pending
  | some outcome => .ready outcome

theorem isSpent_concat : IsSpent wait (later ++ [move]) ↔
    IsSpent wait later ∨ move = .drop wait ∨ move = .poll wait ∧ (fate later).isSome := by
  constructor
  · rintro (hdrop | ⟨first, rest, hsplit, hfate⟩)
    · obtain hdrop | hdrop := List.mem_append.1 hdrop
      · exact .inl (.inl hdrop)
      · exact .inr (.inl (List.mem_singleton.1 hdrop).symm)
    · obtain rfl | ⟨rest, last, rfl⟩ := List.eq_nil_or_concat rest
      · obtain ⟨rfl, hmove⟩ := List.append_inj' hsplit rfl
        exact .inr (.inr ⟨List.singleton_inj.1 hmove, hfate⟩)
      · rw [List.concat_eq_append, ← List.cons_append, ← List.append_assoc] at hsplit
        obtain ⟨rfl, -⟩ := List.append_inj' hsplit rfl
        exact .inl (.inr ⟨first, rest, rfl, hfate⟩)
  · rintro ((hdrop | ⟨first, rest, rfl, hfate⟩) | rfl | ⟨rfl, hfate⟩)
    · exact .inl (List.mem_append_left _ hdrop)
    · exact .inr ⟨first, rest ++ [move], by simp, hfate⟩
    · exact .inl (List.mem_append_right _ (List.mem_singleton.2 rfl))
    · exact .inr ⟨later, [], rfl, hfate⟩

/-- What has become of a wait is decided by the moves after the arm that handed it out. -/
theorem state_ofMoves (first later : List Move) :
    (IsSpent (arms first) later → (ofMoves (first ++ .arm :: later)).state (arms first) = .gone) ∧
      (¬IsSpent (arms first) later →
        (ofMoves (first ++ .arm :: later)).state (arms first) = standing (fate later)) := by
  induction later using List.reverseRecOn with
  | nil =>
    have hspent : ¬IsSpent (arms first) [] := by simp [IsSpent]
    have hstate := (ofMoves first).state_arm
    rw [fst_arm_ofMoves] at hstate
    rw [ofMoves_concat]
    exact ⟨fun h => absurd h hspent, fun _ => hstate⟩
  | append_singleton later move ih =>
    obtain ⟨hgone, hstanding⟩ := ih
    have hlt := arms_lt first later
    rw [← length_ofMoves (first ++ .arm :: later)] at hlt
    rw [← List.cons_append, ← List.append_assoc, ofMoves_concat, isSpent_concat, fate_concat]
    cases hends : move.ends? with
    | some outcome =>
      have hdrop : move ≠ .drop (arms first) := by rintro rfl; cases hends
      have hpoll : move ≠ .poll (arms first) := by rintro rfl; cases hends
      simp only [hdrop, hpoll, false_and, or_false]
      rw [state_after_of_ends hends hlt]
      refine ⟨fun hspent => ?_, fun hspent => ?_⟩
      · rw [state_complete_of_ne_pending (by simp [hgone hspent])]
        exact hgone hspent
      · -- The first of the moves that end the wait decides; the latch is armed for it until then.
        have hstate := hstanding hspent
        cases hfate : fate later with
        | none =>
          rw [hfate] at hstate
          exact state_complete (armed_ofMoves ⟨rfl, hfate⟩) hstate outcome
        | some first =>
          rw [hfate] at hstate
          rw [state_complete_of_ne_pending (by simp [hstate, standing])]
          exact hstate
    | none =>
      rw [Option.or_none]
      cases move with
      | setRunning => simpa using ⟨hgone, hstanding⟩
      | drop wait =>
        by_cases hwait : wait = arms first
        · subst hwait
          simp [after, state_drop_self]
        · simp only [after, state_drop_of_ne _ hwait, Move.drop.injEq, hwait]
          simpa using ⟨hgone, hstanding⟩
      | poll wait =>
        by_cases hwait : wait = arms first
        · subst hwait
          simp only [after, state_poll_self, reduceCtorEq, true_and, false_or]
          refine ⟨fun hspent => if_neg ?_, fun hspent => ?_⟩
          · intro hpending
            obtain hspent | hfate := hspent
            · simp [hgone hspent] at hpending
            · by_cases hearlier : IsSpent (arms first) later
              · simp [hgone hearlier] at hpending
              · obtain ⟨outcome, houtcome⟩ := Option.isSome_iff_exists.1 hfate
                simp [hstanding hearlier, houtcome, standing] at hpending
          · obtain ⟨hearlier, hfate⟩ := not_or.1 hspent
            rw [Option.not_isSome_iff_eq_none] at hfate
            rw [hstanding hearlier, hfate]
            rfl
        · simp only [after, state_poll_of_ne _ hwait, Move.poll.injEq, hwait]
          simpa using ⟨hgone, hstanding⟩
      | arm => cases hends
      | disarm => cases hends
      | fulfill pc => cases hends
      | fail error => cases hends

theorem fst_complete (latch : Latch) (outcome : HaltOutcome) :
    (latch.complete outcome).1 = true ↔
      ∃ wait running, latch.armed = some ⟨wait, running⟩ ∧ latch.state wait = .pending := by
  unfold complete
  cases harmed : latch.armed with
  | none => simp
  | some a =>
    simp only [beq_iff_eq, Option.some.injEq]
    exact ⟨fun h => ⟨a.wait, a.running, rfl, h⟩, by rintro ⟨wait, running, rfl, h⟩; exact h⟩

/-- Firing the latch is of use to a wait exactly if that wait gets the outcome. -/
theorem fst_complete_iff_state (latch : Latch) (outcome : HaltOutcome) :
    (latch.complete outcome).1 = true ↔ ∃ wait,
      latch.state wait = .pending ∧ (latch.complete outcome).2.state wait = .ready outcome := by
  rw [fst_complete]
  constructor
  · rintro ⟨wait, running, harmed, hstate⟩
    exact ⟨wait, hstate, state_complete harmed hstate outcome⟩
  · rintro ⟨wait, hstate, hready⟩
    by_cases harmed : ∃ running, latch.armed = some ⟨wait, running⟩
    · obtain ⟨running, harmed⟩ := harmed
      exact ⟨wait, running, harmed, hstate⟩
    · rw [state_complete_of_ne (fun running h => harmed ⟨running, h⟩), hstate] at hready
      cases hready

theorem not_isSpent (hfate : fate later = none) (hdrop : .drop wait ∉ later) :
    ¬IsSpent wait later := by
  rintro (h | ⟨first, rest, rfl, hfirst⟩)
  · exact hdrop h
  · have hnone : fate first = none := by
      rw [fate, List.findSome?_append, Option.or_eq_none_iff] at hfate
      exact hfate.1
    simp [hnone] at hfirst

/-- The wait of the last arm is pending as long as nobody drops it. -/
theorem state_eq_pending_iff (h : IsArmedAt moves first later) :
    (ofMoves moves).state (arms first) = .pending ↔ .drop (arms first) ∉ later := by
  obtain ⟨rfl, hfate⟩ := h
  obtain ⟨hgone, hstanding⟩ := state_ofMoves first later
  constructor
  · intro hpending hdrop
    rw [hgone (.inl hdrop)] at hpending
    cases hpending
  · intro hdrop
    rw [hstanding (not_isSpent hfate hdrop), hfate]
    rfl

theorem fst_complete_ofMoves (moves : List Move) (outcome : HaltOutcome) :
    ((ofMoves moves).complete outcome).1 = true ↔ IsAwaited moves := by
  rw [fst_complete]
  constructor
  · rintro ⟨wait, running, harmed, hstate⟩
    have hsome : (ofMoves moves).armed ≠ none := by simp [harmed]
    obtain ⟨first, later, hat⟩ := exists_isArmedAt hsome
    rw [armed_ofMoves hat] at harmed
    cases harmed
    exact ⟨first, later, hat, (state_eq_pending_iff hat).1 hstate⟩
  · rintro ⟨first, later, hat, hdrop⟩
    exact ⟨arms first, _, armed_ofMoves hat, (state_eq_pending_iff hat).2 hdrop⟩

theorem isArmed_ofMoves (moves : List Move) :
    (ofMoves moves).isArmed ↔ ∃ first later, IsArmedAt moves first later := by
  rw [isArmed, Option.isSome_iff_ne_none]
  refine ⟨exists_isArmedAt, ?_⟩
  rintro ⟨first, later, hat⟩
  simp [armed_ofMoves hat]

theorem isWaiting_ofMoves (moves : List Move) :
    (ofMoves moves).isWaiting ↔ ∃ first later,
      IsArmedAt moves first later ∧ .setRunning ∈ later ∧ .drop (arms first) ∉ later := by
  have hwaiting : ∀ {first later}, IsArmedAt moves first later →
      ((ofMoves moves).isWaiting ↔ .setRunning ∈ later ∧ .drop (arms first) ∉ later) := by
    intro first later hat
    simp only [isWaiting, armed_ofMoves hat, Bool.and_eq_true, decide_eq_true_eq, beq_iff_eq,
      state_eq_pending_iff hat]
  constructor
  · intro h
    have harmed : (ofMoves moves).armed ≠ none := by
      intro hnone
      simp [isWaiting, hnone] at h
    obtain ⟨first, later, hat⟩ := exists_isArmedAt harmed
    exact ⟨first, later, hat, (hwaiting hat).1 h⟩
  · rintro ⟨first, later, hat, h⟩
    exact (hwaiting hat).2 h

/-- Firing the latch reaches no wait but the one that was handed out last. -/
theorem latest_of_state_complete {outcome : HaltOutcome}
    (h : ((ofMoves moves).complete outcome).2.state wait ≠ (ofMoves moves).state wait) :
    wait + 1 = arms moves := by
  by_cases harmed : ∃ running, (ofMoves moves).armed = some ⟨wait, running⟩
  · obtain ⟨running, harmed⟩ := harmed
    have hsome : (ofMoves moves).armed ≠ none := by simp [harmed]
    obtain ⟨first, later, hat⟩ := exists_isArmedAt hsome
    rw [armed_ofMoves hat] at harmed
    cases harmed
    obtain ⟨rfl, hfate⟩ := hat
    have hnone : later.count .arm = 0 := by
      rw [List.count_eq_zero]
      intro harm
      simpa [Move.ends?] using List.findSome?_eq_none_iff.1 hfate .arm harm
    simp [arms, List.count_append, hnone]
  · exact absurd (state_complete_of_ne (fun running h => harmed ⟨running, h⟩) outcome) h

/-- An outcome that was taken is not there a second time. -/
theorem poll_ofMoves_of_ready {outcome : HaltOutcome}
    (h : ((ofMoves moves).poll wait).1 = .ready outcome) (later : List Move) :
    ((ofMoves (moves ++ .poll wait :: later)).poll wait).1 = .gone := by
  rw [fst_poll] at h ⊢
  have hwait : wait < arms moves := by
    rw [← length_ofMoves]
    exact lt_length_of_ne_gone (by simp [h])
  induction later using List.reverseRecOn with
  | nil => rw [ofMoves_concat, after, state_poll_self, if_neg (by simp [h])]
  | append_singleton later move ih =>
    rw [← List.cons_append, ← List.append_assoc, ofMoves_concat]
    refine state_after_of_gone ?_ ih move
    rw [length_ofMoves, arms, List.count_append]
    exact Nat.lt_add_right _ hwait

/-- The moves made with a latch decide everything about it. A wait ends with the first move after
its arm that ends a wait, be it a halt, a failure, or another arm or the end of the waiting, which
pass it over; until then it is pending, and it tells of its end once, unless it is dropped. To fire
the latch is of use exactly if somebody has the wait of the last arm, and reaches that wait only. -/
theorem history_decides (moves : List Move) :
    let latch := ofMoves moves
    (∀ first later, moves = first ++ .arm :: later →
      (ofMoves first).arm.1 = arms first ∧
      (IsSpent (arms first) later → (latch.poll (arms first)).1 = .gone) ∧
      (¬IsSpent (arms first) later → (latch.poll (arms first)).1 = standing (fate later))) ∧
    (∀ wait outcome later, (latch.poll wait).1 = .ready outcome →
      ((ofMoves (moves ++ .poll wait :: later)).poll wait).1 = .gone) ∧
    (∀ pc, ((latch.fulfill pc).1 = true ↔ IsAwaited moves) ∧
      ((latch.fulfill pc).1 = true ↔ ∃ wait, latch.state wait = .pending ∧
        (latch.fulfill pc).2.state wait = .ready (.halted pc))) ∧
    (∀ error, ((latch.fail error).1 = true ↔ IsAwaited moves) ∧
      ((latch.fail error).1 = true ↔ ∃ wait, latch.state wait = .pending ∧
        (latch.fail error).2.state wait = .ready (.failed error))) ∧
    (latch.isArmed ↔ ∃ first later, IsArmedAt moves first later) ∧
    (latch.isWaiting ↔ ∃ first later,
      IsArmedAt moves first later ∧ .setRunning ∈ later ∧ .drop (arms first) ∉ later) ∧
    ∀ wait outcome, (latch.complete outcome).2.state wait ≠ latch.state wait →
      wait + 1 = arms moves := by
  intro latch
  refine ⟨fun first later hmoves => ?_, fun wait outcome later h => poll_ofMoves_of_ready h later,
    fun pc => ⟨fst_complete_ofMoves moves _, latch.fst_complete_iff_state _⟩,
    fun error => ⟨fst_complete_ofMoves moves _, latch.fst_complete_iff_state _⟩,
    isArmed_ofMoves moves, isWaiting_ofMoves moves, fun wait outcome => latest_of_state_complete⟩
  subst hmoves
  rw [fst_poll]
  exact ⟨fst_arm_ofMoves first, state_ofMoves first later⟩

/-- An older wait is passed over, and what halts is told to the newer one, once. -/
theorem history_decides_rearmed :
    let moves : List Move := [.arm, .arm, .setRunning, .fulfill 0x30]
    ((ofMoves moves).poll 0).1 = .ready .superseded ∧
      ((ofMoves moves).poll 1).1 = .ready (.halted 0x30) ∧
      ((ofMoves (moves ++ [.poll 1])).poll 1).1 = .gone ∧ (ofMoves moves).isArmed = false := by
  intro moves
  obtain ⟨hwaits, honce, -, -, -, -, -⟩ := history_decides moves
  have hold := (hwaits [] [.arm, .setRunning, .fulfill 0x30] rfl).2.2
  have hnew := (hwaits [.arm] [.setRunning, .fulfill 0x30] rfl).2.2
  have hspent : ∀ {wait later}, (∀ move ∈ later, move ≠ .drop wait ∧ move ≠ .poll wait) →
      ¬IsSpent wait later := by
    rintro wait later h (hdrop | ⟨first, rest, rfl, -⟩)
    · exact (h _ hdrop).1 rfl
    · exact (h (.poll wait) (by simp)).2 rfl
  have hready := hnew (hspent (by decide))
  exact ⟨hold (hspent (by decide)), hready, honce 1 _ [] hready, by decide⟩

end BoardDebug.Latch
