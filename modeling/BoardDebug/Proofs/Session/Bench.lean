import BoardDebug.Proofs.Session.World

namespace BoardDebug

open Call Relation

namespace Bench

/-- The rig of a bench passes every request on at once. -/
def IsPlain (bench : Bench) : Prop :=
  bench.rig = .new bench.rig.device

/-- The world on a bench has become another one without a call. -/
def Goes (bench bench' : Bench) : Prop :=
  bench'.IsPlain ∧ ReflTransGen World.Happens (World.ofBench bench) (World.ofBench bench')

variable {bench bench' bench'' : Bench}

theorem IsPlain.goes_refl (h : bench.IsPlain) : bench.Goes bench :=
  ⟨h, .refl⟩

theorem Goes.trans (h : bench.Goes bench') (h' : bench'.Goes bench'') : bench.Goes bench'' :=
  ⟨h'.1, h.2.trans h'.2⟩

theorem goes_of_after (hplain : bench'.IsPlain) (incident : Incident)
    (h : World.ofBench bench' = (World.ofBench bench).after incident) : bench.Goes bench' :=
  ⟨hplain, .single ⟨incident, h⟩⟩

theorem IsPlain.serve (h : bench.IsPlain) (request : Request) :
    bench.serve request =
      ((bench.rig.device.serve request).answer,
        ({ bench with rig := .new (bench.rig.device.serve request).link } : Bench).deliver
          (bench.rig.device.serve request).events) := by
  unfold Bench.serve
  rw [h]
  cases request <;> rfl

theorem IsPlain.latency (h : bench.IsPlain) (request : Request) :
    bench.rig.latency request = 0 := by
  rw [h]
  unfold Rig.latency
  cases request <;> rfl

/-- The task that asks for halts sees nothing of a bench but its world and the time. -/
theorem IsPlain.poll (h : bench.IsPlain) (interval : Nat) (stage : PollStage) :
    (bench.poll interval stage).IsPlain ∧
      World.ofBench (bench.poll interval stage) =
        World.ofBench (((World.ofBench bench).bench bench.now).poll interval stage) := by
  cases stage with
  | fresh => exact ⟨h, rfl⟩
  | asleep due =>
    simp only [Bench.poll, h.latency]
    exact ⟨h, rfl⟩
  | ended => exact ⟨h, rfl⟩
  | asking due answered =>
    have hevents := bench.rig.device.events_serve_queryHalt
    simp only [Bench.poll, h.serve, World.serve_queryHalt_bench, World.ofBench]
    rw [hevents]
    rcases (bench.rig.device.serve .queryHalt).answer with e | _ | pc
    · exact ⟨rfl, rfl⟩
    · exact ⟨rfl, rfl⟩
    · exact ⟨rfl, rfl⟩

theorem IsPlain.goes_poll (h : bench.IsPlain) {interval : Nat} {stage : PollStage}
    (hobserver : bench.controller.session.bind (·.observer) = some (.poll interval stage)) :
    bench.Goes (bench.poll interval stage) := by
  obtain ⟨hplain, hpoll⟩ := h.poll interval stage
  refine goes_of_after hplain (.poll bench.now) (hpoll.trans ?_)
  simp only [World.after, World.ofBench, hobserver]

theorem IsPlain.goes_haltNow (h : bench.IsPlain) (pc : UInt32) : bench.Goes (bench.haltNow pc) := by
  refine goes_of_after ?_ (.haltNow pc) rfl
  unfold IsPlain at h
  unfold IsPlain Bench.haltNow deliver
  rw [h]
  rfl

theorem polling_spec {time : Nat} {occasion : Occasion}
    (h : bench.polling? = some (time, occasion)) :
    ∃ interval stage, occasion = .poll interval stage ∧
      bench.controller.session.bind (·.observer) = some (.poll interval stage) := by
  unfold polling? at h
  split at h
  case h_1 interval stage hobserver =>
    obtain ⟨_, -, heq⟩ := Option.map_eq_some_iff.1 h
    cases heq
    exact ⟨interval, stage, rfl, hobserver⟩
  case h_2 => cases h

/-- What a bench does next is to halt the device, or to let the task of its session go on. -/
theorem nextOccasion_spec {time : Nat} {occasion : Occasion}
    (h : bench.nextOccasion? = some (time, occasion)) :
    (∃ alarm, occasion = .alarm alarm) ∨ bench.polling? = some (time, occasion) := by
  unfold nextOccasion? at h
  split at h
  case h_1 => exact .inr h
  case h_2 alarm _ _ =>
    cases h
    exact .inl ⟨alarm, rfl⟩
  case h_3 polled poll alarm hpolling _ =>
    split at h
    case isTrue =>
      cases h
      exact .inl ⟨alarm, rfl⟩
    case isFalse =>
      cases h
      exact .inr hpolling

/-- What a bench does next happens to its world. -/
theorem IsPlain.goes_happen (h : bench.IsPlain) {time : Nat} {occasion : Occasion}
    (hnext : bench.nextOccasion? = some (time, occasion)) :
    bench.Goes (bench.happen time occasion) := by
  obtain ⟨alarm, rfl⟩ | hpolling := nextOccasion_spec hnext
  · have hplain : ({ bench with
        now := time, alarms := bench.alarms.filter (·.due ≠ alarm.due) } : Bench).IsPlain := h
    exact hplain.goes_haltNow alarm.pc
  · obtain ⟨interval, stage, rfl, hobserver⟩ := polling_spec hpolling
    have hplain : ({ bench with now := time } : Bench).IsPlain := h
    exact hplain.goes_poll hobserver

/-- The passing of time happens to a world, and what is enough at its end is. -/
theorem IsPlain.proceed {α : Type} (h : bench.IsPlain) (stop : Nat) (enough : Bench → Option α)
    (fuel : Nat) :
    bench.Goes (Bench.proceed stop enough fuel bench).2 ∧
      ∀ a ∈ (Bench.proceed stop enough fuel bench).1,
        enough (Bench.proceed stop enough fuel bench).2 = some a := by
  induction fuel generalizing bench with
  | zero => exact ⟨h.goes_refl, fun _ ha => ha⟩
  | succ fuel ih =>
    unfold Bench.proceed
    split
    case h_1 a henough => exact ⟨h.goes_refl, fun _ ha => henough.trans ha⟩
    case h_2 =>
      split
      case h_1 time occasion hnext =>
        split
        case isTrue =>
          have hgoes := h.goes_happen hnext
          obtain ⟨hlater, henough⟩ := ih hgoes.1
          exact ⟨hgoes.trans hlater, henough⟩
        case isFalse => exact ⟨h.goes_refl, nofun⟩
      case h_2 => exact ⟨h.goes_refl, nofun⟩

/-- What a bench makes of a call is one of the outcomes of the call. -/
theorem IsPlain.outcome_drive {α : Type} (h : bench.IsPlain) (deadline : Nat)
    (call : Call Controller α) :
    (drive deadline call bench).2.IsPlain ∧
      Outcome Controller.notify World.Happens call bench.rig.device
        ⟨(drive deadline call bench).1, (drive deadline call bench).2.controller,
          (drive deadline call bench).2.rig.device⟩ := by
  induction call generalizing bench with
  | done controller result => exact ⟨h, .done _ _ _⟩
  | ask controller request next ih =>
    have hplain : ({ bench with controller } : Bench).IsPlain := h
    have hserved : (({ bench with
        controller, rig := .new (bench.rig.device.serve request).link } : Bench).deliver
          (bench.rig.device.serve request).events).IsPlain := rfl
    -- A request takes no time here, so that it cannot be given up.
    unfold drive
    simp only [hplain.latency, hplain.serve, Nat.add_zero, if_true]
    obtain ⟨hdone, houtcome⟩ := ih _ _ hserved
    exact ⟨hdone, .ask houtcome⟩
  | await controller ready next ih =>
    have hplain : ({ bench with controller } : Bench).IsPlain := h
    obtain ⟨⟨hpassed, hhappens⟩, hready⟩ := hplain.proceed deadline
      (fun bench => ready bench.controller)
      (({ bench with controller } : Bench).occasionBound deadline)
    unfold drive
    dsimp only
    split
    case h_1 outcome passed heq =>
      rw [heq] at hpassed hhappens hready
      obtain ⟨hdone, houtcome⟩ := ih outcome passed.controller hpassed
      exact ⟨hdone, .woken hhappens (hready outcome rfl) houtcome⟩
    case h_2 passed heq =>
      rw [heq] at hpassed hhappens
      exact ⟨hpassed, .givenUp hhappens⟩

/-- Whatever a bench is asked to do, one of the things that may come of it does. -/
theorem IsPlain.performs_call (h : bench.IsPlain) (timeout : Nat) (errand : Errand) :
    (bench.call timeout (errand.routine bench.rig.device.capabilities)).2.IsPlain ∧
      errand.Performs (World.ofBench bench)
        ⟨(bench.call timeout (errand.routine bench.rig.device.capabilities)).1,
          (bench.call timeout (errand.routine bench.rig.device.capabilities)).2.controller,
          (bench.call timeout (errand.routine bench.rig.device.capabilities)).2.rig.device⟩ :=
  h.outcome_drive _ _

/-- A bench takes a controller to no other worlds than those that it can come to. -/
theorem IsPlain.reachable_call (h : bench.IsPlain) (hw : (World.ofBench bench).Reachable)
    (timeout : Nat) (errand : Errand) :
    (World.ofBench
      (bench.call timeout (errand.routine bench.rig.device.capabilities)).2).Reachable :=
  hw.perform (h.performs_call timeout errand).2

theorem IsPlain.reachable_pass (h : bench.IsPlain) (hw : (World.ofBench bench).Reachable)
    (stop : Nat) : (World.ofBench (bench.pass stop)).Reachable :=
  hw.happen (h.proceed stop pass.never _).1.2

end Bench

end BoardDebug
