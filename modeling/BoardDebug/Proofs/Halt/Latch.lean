import BoardDebug.Halt.Latch

namespace BoardDebug.Latch

/-- A wait that still counts: the latch is armed for it or has fired for it. -/
def Serves (latch : Latch) (wait : Nat) : Prop :=
  match latch.state wait with
  | .pending => ∃ running, latch.armed = some ⟨wait, running⟩
  | .ready outcome => latch.armed = none ∧ outcome ≠ .superseded
  | .gone => False

@[simp] theorem armed_disarm (latch : Latch) : latch.disarm.armed = none := by
  unfold disarm
  split
  · rfl
  · assumption

@[simp] theorem armed_complete (latch : Latch) (outcome : HaltOutcome) :
    (latch.complete outcome).2.armed = none := by
  unfold complete
  split
  · assumption
  · rfl

theorem complete_of_unarmed {latch : Latch} (h : latch.armed = none) (outcome : HaltOutcome) :
    (latch.complete outcome).2 = latch := by
  simp [complete, h]

theorem getElem?_of_pending {latch : Latch} {wait : Nat} (h : latch.state wait = .pending) :
    latch.waits[wait]? = some .pending := by
  unfold state at h
  rw [List.getD_eq_getElem?_getD] at h
  cases hget : latch.waits[wait]? with
  | none => simp [hget] at h
  | some w => simpa [hget] using h

@[simp] theorem state_arm (latch : Latch) : latch.arm.2.state latch.arm.1 = .pending := by
  simp [arm, state]

theorem armed_arm (latch : Latch) : latch.arm.2.armed = some ⟨latch.arm.1, false⟩ := rfl

theorem serves_arm (latch : Latch) : latch.arm.2.Serves latch.arm.1 := by
  simp only [Serves, state_arm]
  exact ⟨false, armed_arm latch⟩

@[simp] theorem state_setRunning (latch : Latch) (wait : Nat) :
    latch.setRunning.state wait = latch.state wait := rfl

theorem Serves.setRunning {latch : Latch} {wait : Nat} (h : latch.Serves wait) :
    latch.setRunning.Serves wait := by
  unfold Serves at h ⊢
  rw [state_setRunning]
  cases hw : latch.state wait with
  | pending =>
    rw [hw] at h
    obtain ⟨running, ha⟩ := h
    exact ⟨true, by simp [Latch.setRunning, ha]⟩
  | ready outcome =>
    rw [hw] at h
    exact ⟨by simp [Latch.setRunning, h.1], h.2⟩
  | gone =>
    rw [hw] at h
    exact h

/-- The outcome with which the latch fires is that of the wait that it is armed for. -/
theorem state_complete {latch : Latch} {wait : Nat} {running : Bool}
    (harmed : latch.armed = some ⟨wait, running⟩) (hstate : latch.state wait = .pending)
    (outcome : HaltOutcome) : (latch.complete outcome).2.state wait = .ready outcome := by
  have hpending := getElem?_of_pending hstate
  have hlt := (List.getElem?_eq_some_iff.1 hpending).1
  have hset : settle latch.waits wait outcome = latch.waits.set wait (.ready outcome) := by
    rw [settle, if_pos hpending]
  simp [complete, harmed, state, hset, List.getD_eq_getElem?_getD, hlt]

theorem Serves.complete {latch : Latch} {wait : Nat} {outcome : HaltOutcome}
    (h : latch.Serves wait) (houtcome : outcome ≠ .superseded) :
    (latch.complete outcome).2.Serves wait := by
  unfold Serves at h
  cases hw : latch.state wait with
  | pending =>
    rw [hw] at h
    obtain ⟨running, harmed⟩ := h
    have hstate := state_complete harmed hw outcome
    simp only [Serves, hstate]
    exact ⟨armed_complete latch outcome, houtcome⟩
  | ready outcome' =>
    -- The latch has fired before, so that the outcome stays.
    rw [hw] at h
    rw [complete_of_unarmed h.1]
    simp only [Serves, hw]
    exact h
  | gone =>
    rw [hw] at h
    exact h.elim

/-- A wait that still counts is pending, or its outcome is a halt or a failed question. -/
theorem Serves.ready {latch : Latch} {wait : Nat} {outcome : HaltOutcome} (h : latch.Serves wait)
    (hw : latch.state wait = .ready outcome) : latch.armed = none ∧ outcome ≠ .superseded := by
  simpa only [Serves, hw] using h

theorem Serves.not_gone {latch : Latch} {wait : Nat} (h : latch.Serves wait) :
    latch.state wait ≠ .gone := by
  intro hw
  simp only [Serves, hw] at h

end BoardDebug.Latch
