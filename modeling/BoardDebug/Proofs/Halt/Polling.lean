import BoardDebug.Proofs.Halt.Trace

namespace BoardDebug

namespace Latch

variable {latch latch' : Latch}

/-- What a session does to its latch: no wait is told of a halt or a failure by it, and what a wait
was told stays until it is taken. -/
structure Leaves (latch latch' : Latch) : Prop where
  ready : ∀ wait outcome, latch'.state wait = .ready outcome → outcome ≠ .superseded →
    latch.state wait = .ready outcome
  told : ∀ wait < latch.waits.length, latch.state wait ≠ .pending →
    latch'.state wait = latch.state wait ∨ latch'.state wait = .gone
  length : latch.waits.length ≤ latch'.waits.length

/-- A wait has the outcome with which the latch fired, or stands where it stood. -/
theorem state_complete_cases (latch : Latch) (outcome : HaltOutcome) (wait : Nat) :
    ((∃ running, latch.armed = some ⟨wait, running⟩) ∧ latch.state wait = .pending ∧
      (latch.complete outcome).2.state wait = .ready outcome) ∨
    (latch.complete outcome).2.state wait = latch.state wait := by
  by_cases hpending : latch.state wait = .pending
  · by_cases harmed : ∃ running, latch.armed = some ⟨wait, running⟩
    · obtain ⟨running, harmed⟩ := harmed
      exact .inl ⟨⟨running, harmed⟩, hpending, state_complete harmed hpending outcome⟩
    · exact .inr (state_complete_of_ne (fun running h => harmed ⟨running, h⟩) outcome)
  · exact .inr (state_complete_of_ne_pending hpending outcome)

theorem leaves_disarm (latch : Latch) : latch.Leaves latch.disarm := by
  rw [disarm_eq_complete]
  refine ⟨fun wait outcome hready houtcome => ?_, fun wait _ hpending => ?_, ?_⟩
  · obtain ⟨-, -, hstate⟩ | hstate := latch.state_complete_cases .superseded wait
    · rw [hstate] at hready
      cases hready
      exact absurd rfl houtcome
    · exact hstate.symm.trans hready
  · exact .inl (state_complete_of_ne_pending hpending _)
  · exact Nat.le_of_eq (length_complete latch _).symm

theorem state_append_pending (waits : List WaitState) (armed : Option Armed) (wait : Nat) :
    state ⟨armed, waits ++ [.pending]⟩ wait =
      if wait = waits.length then .pending else state ⟨none, waits⟩ wait := by
  simp only [state, List.getD_eq_getElem?_getD]
  obtain hlt | rfl | hgt := Nat.lt_trichotomy wait waits.length
  · rw [if_neg (Nat.ne_of_lt hlt), List.getElem?_append_left hlt]
  · simp
  · have hle : waits.length ≤ wait := by omega
    have hpast : wait - waits.length ≠ 0 := by omega
    rw [if_neg (Nat.ne_of_gt hgt), List.getElem?_append_right hle, List.getElem?_eq_none hle]
    simp [hpast]

theorem leaves_arm (latch : Latch) : latch.Leaves latch.arm.2 := by
  have hdisarm := latch.leaves_disarm
  have hstate : ∀ wait, latch.arm.2.state wait =
      if wait = latch.disarm.waits.length then .pending else latch.disarm.state wait :=
    state_append_pending latch.disarm.waits _
  have hlength := length_disarm latch
  refine ⟨fun wait outcome hready houtcome => ?_, fun wait hwait hpending => ?_, ?_⟩
  · rw [hstate] at hready
    split at hready
    · cases hready
    · exact hdisarm.ready wait outcome hready houtcome
  · rw [hstate, if_neg (by omega)]
    exact hdisarm.told wait hwait hpending
  · have harm : latch.arm.2.waits.length = latch.disarm.waits.length + 1 := by simp [arm]
    omega

theorem leaves_setRunning (latch : Latch) : latch.Leaves latch.setRunning :=
  ⟨fun _ _ hready _ => hready, fun _ _ _ => .inl rfl, Nat.le_refl _⟩

theorem leaves_drop (latch : Latch) (wait : Nat) : latch.Leaves (latch.drop wait) := by
  refine ⟨fun other outcome hready _ => ?_, fun other _ _ => ?_, ?_⟩
  · obtain rfl | hne := eq_or_ne wait other
    · simp [state_drop_self] at hready
    · rwa [state_drop_of_ne _ hne] at hready
  · obtain rfl | hne := eq_or_ne wait other
    · exact .inr (latch.state_drop_self wait)
    · exact .inl (latch.state_drop_of_ne hne)
  · simp [drop]

end Latch

namespace Polling

/-- Where the task that asks for halts stands, from one step to the next. -/
inductive Stage where
  | idle
  /-- Its tick has come. -/
  | ticked
  /-- It has seen that somebody waits. -/
  | cleared
  /-- It has asked; the question was noted at `place`. -/
  | asking (place : Nat)
  /-- It has got an answer, which was noted at `place`. -/
  | informed (place : Nat) (answer : Except LinkError (Option UInt32))
  | ended

/-- What is noted while sessions come and go, each note behind those before it. Sessions are
numbered in the order in which they began, and waits as their latch numbers them. -/
inductive Note where
  /-- The link has acknowledged the request that sets the device going for a wait. -/
  | launched (session wait : Nat)
  /-- The task of a session asks, while its latch is armed like this. -/
  | issued (session : Nat) (armed : Option Armed)
  /-- The question at `question` is answered. -/
  | answered (session question : Nat) (answer : Except LinkError (Option UInt32))
  /-- The task of a session fires its latch with the answer at `answer`. -/
  | fired (session answer : Nat) (armed : Option Armed)

/-- The session of which something is noted. -/
def Note.session : Note → Nat
  | launched s _ | issued s _ | answered s _ _ | fired s _ _ => s

/-- How an answer ends a wait, if it does. -/
def outcome? : Except LinkError (Option UInt32) → Option HaltOutcome
  | .ok (some pc) => some (.halted pc)
  | .ok none => none
  | .error e => some (.failed e)

/-- The task of a session, with the latch of that session. -/
structure Watch where
  latch : Latch
  stage : Stage

/-- What a step of a task has come to. -/
structure Turn (δ : Type) where
  watch : Watch
  link : δ
  /-- What is noted of it. -/
  notes : List Note

/-- A step of the task of a session: its tick comes, it looks whether somebody waits, it asks, it is
answered, it fires the latch. The next note has its place at `place`. -/
def Watch.turn {δ : Type} [Link δ] (watch : Watch) (session : Nat) (link : δ) (place : Nat) :
    Turn δ :=
  match watch.stage with
  | .idle => ⟨{ watch with stage := .ticked }, link, []⟩
  | .ticked =>
    ⟨{ watch with stage := if watch.latch.isWaiting then .cleared else .idle }, link, []⟩
  | .cleared =>
    ⟨{ watch with stage := .asking place }, link, [.issued session watch.latch.armed]⟩
  | .asking question =>
    let served := Link.serve link .queryHalt
    ⟨{ watch with stage := .informed place served.answer }, served.link,
      [.answered session question served.answer]⟩
  | .informed answer (.ok (some pc)) =>
    ⟨⟨(watch.latch.fulfill pc).2, .idle⟩, link, [.fired session answer watch.latch.armed]⟩
  | .informed _ (.ok none) => ⟨{ watch with stage := .idle }, link, []⟩
  | .informed answer (.error e) =>
    ⟨⟨(watch.latch.fail e).2, .ended⟩, link, [.fired session answer watch.latch.armed]⟩
  | .ended => ⟨watch, link, []⟩

/-- Whether a task has seen that somebody waits and is not done with it. -/
def Stage.IsBusy : Stage → Prop
  | cleared | asking _ | informed _ _ => True
  | idle | ticked | ended => False

/-- What a step of a task does to its latch: nothing, or it fires it and is done. -/
theorem Watch.turn_cases {δ : Type} [Link δ] (watch : Watch) (session : Nat) (link : δ)
    (place : Nat) :
    (watch.turn session link place).watch.latch = watch.latch ∧
      ((watch.turn session link place).watch.stage.IsBusy →
        watch.stage.IsBusy ∨ watch.latch.isWaiting) ∨
    watch.stage.IsBusy ∧ ¬(watch.turn session link place).watch.stage.IsBusy ∧
      ∃ outcome ≠ .superseded,
        (watch.turn session link place).watch.latch = (watch.latch.complete outcome).2 := by
  obtain ⟨latch, stage⟩ := watch
  cases stage with
  | idle | ended => exact .inl ⟨rfl, False.elim⟩
  | ticked =>
    refine .inl ⟨rfl, fun hbusy => .inr ?_⟩
    by_contra hwaiting
    simp [turn, hwaiting, Stage.IsBusy] at hbusy
  | cleared | asking question => exact .inl ⟨rfl, fun _ => .inl trivial⟩
  | informed i answer =>
    rcases answer with e | _ | pc
    · exact .inr ⟨trivial, id, .failed e, nofun, rfl⟩
    · exact .inl ⟨rfl, False.elim⟩
    · exact .inr ⟨trivial, id, .halted pc, nofun, rfl⟩

theorem Watch.session_of_mem_turn {δ : Type} [Link δ] {watch : Watch} {session : Nat} {link : δ}
    {place : Nat} {note : Note} (h : note ∈ (watch.turn session link place).notes) :
    note.session = session := by
  obtain ⟨latch, stage⟩ := watch
  cases stage with
  | idle | ticked | ended => simp [turn] at h
  | cleared | asking question =>
    obtain rfl := List.mem_singleton.1 h
    rfl
  | informed i answer =>
    rcases answer with e | _ | pc
    · obtain rfl := List.mem_singleton.1 h
      rfl
    · simp [turn] at h
    · obtain rfl := List.mem_singleton.1 h
      rfl

section Notes

variable (notes : List Note) (session : Nat)

def LaunchedBefore (place wait : Nat) : Prop :=
  ∃ i < place, notes[i]? = some (.launched session wait)

/-- The question at `question` was asked while the latch was armed for a run that had been
acknowledged before. -/
structure AskedFor (question wait : Nat) : Prop where
  launched : LaunchedBefore notes session question wait
  issued : notes[question]? = some (.issued session (some ⟨wait, true⟩))

def AnsweredFor (place wait : Nat) (answer : Except LinkError (Option UInt32)) : Prop :=
  ∃ question < place, AskedFor notes session question wait ∧
    notes[place]? = some (.answered session question answer)

/-- At `place` the latch was fired for a wait, with the answer to a question that was asked for
it. -/
def FiredFor (place wait : Nat) (outcome : HaltOutcome) : Prop :=
  ∃ i < place, ∃ answer, AnsweredFor notes session i wait answer ∧ outcome? answer = some outcome ∧
    notes[place]? = some (.fired session i (some ⟨wait, true⟩))

end Notes

variable {notes more : List Note} {session place wait : Nat} {watch : Watch}

theorem getElem?_grow {note : Note} (h : notes[place]? = some note) (more : List Note) :
    (notes ++ more)[place]? = some note := by
  rwa [List.getElem?_append_left (List.getElem?_eq_some_iff.1 h).1]

theorem getElem?_grown {note : Note} (h : (notes ++ more)[place]? = some note) :
    notes[place]? = some note ∨ notes.length ≤ place ∧ note ∈ more := by
  obtain hlt | hle := Nat.lt_or_ge place notes.length
  · rw [List.getElem?_append_left hlt] at h
    exact .inl h
  · rw [List.getElem?_append_right hle] at h
    exact .inr ⟨hle, List.mem_of_getElem? h⟩

theorem LaunchedBefore.grow (h : LaunchedBefore notes session place wait) (more : List Note)
    {later : Nat} (hlater : place ≤ later) : LaunchedBefore (notes ++ more) session later wait := by
  obtain ⟨i, hi, hnote⟩ := h
  exact ⟨i, by omega, getElem?_grow hnote more⟩

theorem AskedFor.grow (h : AskedFor notes session place wait) (more : List Note) :
    AskedFor (notes ++ more) session place wait :=
  ⟨h.launched.grow more (Nat.le_refl _), getElem?_grow h.issued more⟩

theorem AnsweredFor.grow {answer : Except LinkError (Option UInt32)}
    (h : AnsweredFor notes session place wait answer) (more : List Note) :
    AnsweredFor (notes ++ more) session place wait answer := by
  obtain ⟨question, hlt, hasked, hanswered⟩ := h
  exact ⟨question, hlt, hasked.grow more, getElem?_grow hanswered more⟩

theorem FiredFor.grow {outcome : HaltOutcome} (h : FiredFor notes session place wait outcome)
    (more : List Note) : FiredFor (notes ++ more) session place wait outcome := by
  obtain ⟨i, hlt, answer, hanswered, houtcome, hfired⟩ := h
  exact ⟨i, hlt, answer, hanswered.grow more, houtcome, getElem?_grow hfired more⟩

/-- All that a firing refers to was noted before it. -/
theorem FiredFor.of_grown {outcome : HaltOutcome} (hplace : place < notes.length)
    (h : FiredFor (notes ++ more) session place wait outcome) :
    FiredFor notes session place wait outcome := by
  obtain ⟨i, hi, answer, ⟨question, hquestion, ⟨⟨j, hj, hlaunched⟩, hissued⟩, hanswered⟩, houtcome,
    hfired⟩ := h
  have hold : ∀ k ≤ place, (notes ++ more)[k]? = notes[k]? := fun k hk =>
    List.getElem?_append_left (by omega)
  rw [hold _ (by omega)] at hlaunched hissued hanswered hfired
  exact ⟨i, hi, answer, ⟨question, hquestion, ⟨⟨j, hj, hlaunched⟩, hissued⟩, hanswered⟩, houtcome,
    hfired⟩

/-- Whether a task stops asking here. -/
def Stage.IsLast : Stage → Prop
  | informed _ (.error _) | ended => True
  | _ => False

/-- What a busy task has to do with the wait that the latch is armed for: it saw that wait. -/
def Stage.Minds (notes : List Note) (session : Nat) (a : Armed) : Stage → Prop
  | cleared => a.running
  | asking question => a.running ∧ AskedFor notes session question a.wait
  | informed i answer => a.running ∧ AnsweredFor notes session i a.wait answer
  | idle | ticked | ended => True

/-- A task has been answered with an error and is about to fire its latch, or it has done so and has
come to its end. -/
def Stage.Heeds (notes : List Note) (session i : Nat) (e : LinkError) (stage : Stage) : Prop :=
  stage = .informed i (.error e) ∨
    stage = .ended ∧ ∃ (place : Nat) (armed : Option Armed),
      notes[place]? = some (.fired session i armed)

theorem Stage.Heeds.isLast {i : Nat} {e : LinkError} {stage : Stage}
    (h : stage.Heeds notes session i e) : stage.IsLast := by
  obtain rfl | ⟨rfl, -⟩ := h
  · exact trivial
  · exact trivial

theorem Stage.Heeds.grow {i : Nat} {e : LinkError} {stage : Stage}
    (h : stage.Heeds notes session i e) (more : List Note) :
    stage.Heeds (notes ++ more) session i e := by
  obtain hstage | ⟨hstage, fired, armed, hnote⟩ := h
  · exact .inl hstage
  · exact .inr ⟨hstage, fired, armed, getElem?_grow hnote more⟩

/-- What the notes say of a session, and what they have to do with its latch and its task. -/
structure Watch.Sound (notes : List Note) (session : Nat) (watch : Watch) : Prop where
  ready : ∀ wait outcome, watch.latch.state wait = .ready outcome → outcome ≠ .superseded →
    ∃ place, FiredFor notes session place wait outcome
  told : ∀ place wait outcome, FiredFor notes session place wait outcome →
    wait < watch.latch.waits.length ∧
      (watch.latch.state wait = .ready outcome ∨ watch.latch.state wait = .gone)
  armed : ∀ a, watch.latch.armed = some a → a.wait < watch.latch.waits.length ∧
    (watch.latch.state a.wait = .pending ∨ watch.latch.state a.wait = .gone)
  launched : ∀ wait, watch.latch.armed = some ⟨wait, true⟩ →
    LaunchedBefore notes session notes.length wait
  minds : ∀ a, watch.latch.armed = some a → watch.stage.Minds notes session a
  informed : ∀ i answer, watch.stage = .informed i answer →
    ∃ question, notes[i]? = some (.answered session question answer)
  failed : ∀ i question e, notes[i]? = some (.answered session question (.error e)) →
    watch.stage.Heeds notes session i e

/-- What is noted of a session by its own task: what it was answered, and that it fired. -/
def Note.Reports (session : Nat) : Note → Prop
  | answered s _ _ => s = session
  | fired s _ _ => s = session
  | launched _ _ | issued _ _ => False

theorem Note.Reports.session_eq {note : Note} (h : note.Reports session) :
    note.session = session := by
  cases note with
  | answered s question answer => exact h
  | fired s i armed => exact h
  | launched s wait | issued s armed => exact h.elim

theorem Stage.Minds.grow {a : Armed} {stage : Stage} (h : stage.Minds notes session a)
    (more : List Note) : stage.Minds (notes ++ more) session a := by
  cases stage with
  | asking question => exact ⟨h.1, h.2.grow more⟩
  | informed i answer => exact ⟨h.1, h.2.grow more⟩
  | cleared | idle | ticked | ended => exact h

namespace Watch.Sound

/-- A task has gone on without firing its latch. -/
theorem advance (h : watch.Sound notes session) (more : List Note) (stage : Stage)
    (hmore : ∀ i armed, .fired session i armed ∉ more)
    (hminds : ∀ a, watch.latch.armed = some a → stage.Minds (notes ++ more) session a)
    (hinformed : ∀ i answer, stage = .informed i answer →
      ∃ question, (notes ++ more)[i]? = some (.answered session question answer))
    (hfailed : ∀ i question e, (notes ++ more)[i]? = some (.answered session question (.error e)) →
      stage.Heeds (notes ++ more) session i e) :
    Watch.Sound (notes ++ more) session ⟨watch.latch, stage⟩ where
  ready wait outcome hready houtcome := by
    obtain ⟨place, hfired⟩ := h.ready wait outcome hready houtcome
    exact ⟨place, hfired.grow more⟩
  told place wait outcome hfired := by
    obtain hlt | hle := Nat.lt_or_ge place notes.length
    · exact h.told place wait outcome (hfired.of_grown hlt)
    · obtain ⟨i, hi, answer, -, -, hnote⟩ := hfired
      obtain hold | ⟨-, hmem⟩ := getElem?_grown hnote
      · have := (List.getElem?_eq_some_iff.1 hold).1
        omega
      · exact absurd hmem (hmore i _)
  armed := h.armed
  launched wait harmed := (h.launched wait harmed).grow more (by simp)
  minds := hminds
  informed := hinformed
  failed := hfailed

/-- What others note has nothing to do with a session. -/
theorem grow (h : watch.Sound notes session) (hmore : ∀ note ∈ more, ¬note.Reports session) :
    watch.Sound (notes ++ more) session := by
  refine h.advance more watch.stage (fun i armed hmem => hmore _ hmem rfl)
    (fun a harmed => (h.minds a harmed).grow more) (fun i answer hstage => ?_)
    fun i question e hnote => ?_
  · obtain ⟨question, hnote⟩ := h.informed i answer hstage
    exact ⟨question, getElem?_grow hnote more⟩
  · obtain hold | ⟨-, hmem⟩ := getElem?_grown hnote
    · exact (h.failed i question e hold).grow more
    · exact absurd rfl (hmore _ hmem)

/-- A task that takes no note and minds no wait may go on. -/
theorem restage (h : watch.Sound notes session) (stage : Stage)
    (hminds : ∀ a, watch.latch.armed = some a → stage.Minds notes session a)
    (hinformed : ∀ i answer, stage ≠ .informed i answer) (hlast : ¬watch.stage.IsLast) :
    Watch.Sound notes session ⟨watch.latch, stage⟩ := by
  have hsound := h.advance [] stage (by simp) (by simpa using hminds)
    (fun i answer hstage => absurd hstage (hinformed i answer))
    fun i question e hnote => absurd (h.failed i question e (by simpa using hnote)).isLast hlast
  simpa using hsound

/-- What a session does to its latch leaves its notes true, if it arms the latch or lets the device
run only when its task is not at work. -/
theorem leave {latch : Latch} (h : watch.Sound notes session) (hleaves : watch.latch.Leaves latch)
    (harmed : ∀ a, latch.armed = some a → a.wait < latch.waits.length ∧
      (latch.state a.wait = .pending ∨ latch.state a.wait = .gone))
    (hlaunched : ∀ wait, latch.armed = some ⟨wait, true⟩ →
      LaunchedBefore notes session notes.length wait)
    (hminds : ∀ a, latch.armed = some a → watch.stage.Minds notes session a) :
    Watch.Sound notes session ⟨latch, watch.stage⟩ where
  ready wait outcome hready houtcome :=
    h.ready wait outcome (hleaves.ready wait outcome hready houtcome) houtcome
  told place wait outcome hfired := by
    obtain ⟨hlt, hstate⟩ := h.told place wait outcome hfired
    have hpending : watch.latch.state wait ≠ .pending := by
      rcases hstate with hstate | hstate <;> simp [hstate]
    have hlength := hleaves.length
    refine ⟨by dsimp only; omega, ?_⟩
    obtain hkept | hgone := hleaves.told wait hlt hpending
    · exact hstate.imp hkept.trans hkept.trans
    · exact .inr hgone
  armed := harmed
  launched := hlaunched
  minds := hminds
  informed := h.informed
  failed := h.failed

theorem disarm (h : watch.Sound notes session) :
    Watch.Sound notes session ⟨watch.latch.disarm, watch.stage⟩ := by
  refine h.leave (Latch.leaves_disarm _) ?_ ?_ ?_
  all_goals simp [Latch.armed_disarm]

theorem drop (h : watch.Sound notes session) (wait : Nat) :
    Watch.Sound notes session ⟨watch.latch.drop wait, watch.stage⟩ := by
  refine h.leave (watch.latch.leaves_drop wait) (fun a harmed => ?_) h.launched h.minds
  obtain ⟨hlt, hstate⟩ := h.armed a harmed
  have hlength : (watch.latch.drop wait).waits.length = watch.latch.waits.length := by
    simp [Latch.drop]
  refine ⟨hlength.symm ▸ hlt, ?_⟩
  obtain rfl | hne := eq_or_ne wait a.wait
  · exact .inr (Latch.state_drop_self _ _)
  · rwa [Latch.state_drop_of_ne _ hne]

theorem minds_of_not_busy {a : Armed} {stage : Stage} (h : ¬stage.IsBusy) :
    stage.Minds notes session a := by
  cases stage with
  | idle | ticked | ended => exact trivial
  | cleared | asking question | informed i answer => exact absurd trivial h

theorem arm (h : watch.Sound notes session) (hbusy : ¬watch.stage.IsBusy) :
    Watch.Sound notes session ⟨watch.latch.arm.2, watch.stage⟩ := by
  refine h.leave watch.latch.leaves_arm (fun a harmed => ?_) (fun wait harmed => ?_)
    fun a _ => minds_of_not_busy hbusy
  · obtain rfl := Option.some.inj (watch.latch.armed_arm.symm.trans harmed)
    refine ⟨?_, .inl watch.latch.state_arm⟩
    simp [Latch.arm]
  · cases watch.latch.armed_arm.symm.trans harmed

theorem setRunning (h : watch.Sound notes session) (hbusy : ¬watch.stage.IsBusy)
    (hlaunched : ∀ a, watch.latch.armed = some a →
      LaunchedBefore notes session notes.length a.wait) :
    Watch.Sound notes session ⟨watch.latch.setRunning, watch.stage⟩ := by
  have harmed : ∀ a, watch.latch.setRunning.armed = some a →
      ∃ a', watch.latch.armed = some a' ∧ a'.wait = a.wait := by
    intro a ha
    obtain ⟨a', ha', rfl⟩ := Option.map_eq_some_iff.1 ha
    exact ⟨a', ha', rfl⟩
  refine h.leave watch.latch.leaves_setRunning (fun a ha => ?_) (fun wait ha => ?_)
    fun a _ => minds_of_not_busy hbusy
  · obtain ⟨a', ha', hwait⟩ := harmed a ha
    exact hwait ▸ h.armed a' ha'
  · obtain ⟨a', ha', hwait⟩ := harmed _ ha
    dsimp only at hwait
    exact hwait ▸ hlaunched a' ha'

/-- A task fires its latch with an answer to a question that it asked for the wait. -/
theorem firedFor {answer : Except LinkError (Option UInt32)} {outcome : HaltOutcome} {i : Nat}
    (h : watch.Sound notes session) (hstage : watch.stage = .informed i answer)
    (houtcome : outcome? answer = some outcome) {a : Armed} (harmed : watch.latch.armed = some a) :
    FiredFor (notes ++ [.fired session i watch.latch.armed]) session notes.length a.wait
      outcome := by
  have hminds := hstage ▸ h.minds
  obtain ⟨question, hanswered⟩ := h.informed i answer hstage
  have hi : i < notes.length := (List.getElem?_eq_some_iff.1 hanswered).1
  obtain ⟨hrunning, hfor⟩ := hminds _ harmed
  refine ⟨i, hi, answer, hfor.grow _, houtcome, ?_⟩
  rw [List.getElem?_concat_length, harmed, ← hrunning]

theorem fire {answer : Except LinkError (Option UInt32)} {outcome : HaltOutcome} {i : Nat}
    {stage : Stage} (h : watch.Sound notes session) (hstage : watch.stage = .informed i answer)
    (houtcome : outcome? answer = some outcome) (hbusy : ¬stage.IsBusy)
    (hlast : watch.stage.IsLast → stage = .ended) :
    Watch.Sound (notes ++ [.fired session i watch.latch.armed]) session
      ⟨(watch.latch.complete outcome).2, stage⟩ := by
  obtain ⟨question, hanswered⟩ := h.informed i answer hstage
  refine ⟨fun wait outcome' hready hne => ?_, fun place wait outcome' hfired => ?_,
    ?_, ?_, ?_, ?_, ?_⟩
  · obtain ⟨⟨running, harmed⟩, -, hstate⟩ | hstate := watch.latch.state_complete_cases outcome wait
    · obtain rfl : outcome = outcome' := by simpa using hstate.symm.trans hready
      exact ⟨_, h.firedFor hstage houtcome harmed⟩
    · obtain ⟨place, hfired⟩ := h.ready wait outcome' (hstate.symm.trans hready) hne
      exact ⟨place, hfired.grow _⟩
  · have hlength := Latch.length_complete watch.latch outcome
    dsimp only
    rw [hlength]
    obtain hlt | hle := Nat.lt_or_ge place notes.length
    · -- It was fired before, so that the wait is not pending any more.
      obtain ⟨hwait, htold⟩ := h.told place wait outcome' (hfired.of_grown hlt)
      rw [Latch.state_complete_of_ne_pending (by rcases htold with h | h <;> simp [h])]
      exact ⟨hwait, htold⟩
    · obtain ⟨i', hi', answer', ⟨question', -, -, hanswered'⟩, houtcome', hnote⟩ := hfired
      obtain hold | ⟨-, hmem⟩ := getElem?_grown hnote
      · have := (List.getElem?_eq_some_iff.1 hold).1
        omega
      · obtain ⟨-, rfl, harmed⟩ : session = session ∧ i' = i ∧ some _ = watch.latch.armed := by
          simpa using hmem
        have hsame := (getElem?_grow hanswered _).symm.trans hanswered'
        obtain ⟨-, rfl⟩ : question = question' ∧ answer = answer' := by simpa using hsame
        obtain rfl := Option.some.inj (houtcome.symm.trans houtcome')
        obtain ⟨hwait, hpending | hgone⟩ := h.armed _ harmed.symm
        · exact ⟨hwait, .inl (Latch.state_complete harmed.symm hpending _)⟩
        · refine ⟨hwait, .inr ?_⟩
          rwa [Latch.state_complete_of_ne_pending (by simp [hgone])]
  · simp [Latch.armed_complete]
  · simp [Latch.armed_complete]
  · simp [Latch.armed_complete]
  · rintro i' answer' rfl
    exact absurd trivial hbusy
  · intro i' question' e hnote
    obtain hold | ⟨-, hmem⟩ := getElem?_grown hnote
    · have hheeds := h.failed i' question' e hold
      have hended := hlast hheeds.isLast
      obtain hinformed | ⟨hended', -⟩ := hheeds
      · cases hstage.symm.trans hinformed
        exact .inr ⟨hended, _, _, List.getElem?_concat_length⟩
      · cases hstage.symm.trans hended'
    · simp at hmem

/-- A step of the task of a session leaves the notes of that session true. -/
theorem turn {δ : Type} [Link δ] (h : watch.Sound notes session) (link : δ) :
    (watch.turn session link notes.length).watch.Sound
      (notes ++ (watch.turn session link notes.length).notes) session := by
  obtain ⟨latch, stage⟩ := watch
  cases stage with
  | idle =>
    simpa [Watch.turn] using h.restage .ticked (fun _ _ => trivial) (by simp) id
  | ticked =>
    have hminds : ∀ a, latch.armed = some a →
        (if latch.isWaiting then Stage.cleared else .idle).Minds notes session a := by
      intro a harmed
      split
      case isTrue hwaiting =>
        simp only [Latch.isWaiting, harmed, Bool.and_eq_true] at hwaiting
        exact hwaiting.1
      case isFalse => exact trivial
    have hinformed : ∀ i answer,
        (if latch.isWaiting then Stage.cleared else .idle) ≠ .informed i answer := by
      intro i answer
      split <;> simp
    simpa [Watch.turn] using h.restage _ hminds hinformed id
  | cleared =>
    refine h.advance [.issued session latch.armed] (.asking notes.length) (by simp)
      (fun a harmed => ?_) (by simp) fun i question e hnote => ?_
    · have hrunning : a.running = true := h.minds a harmed
      have harmed' : latch.armed = some ⟨a.wait, true⟩ := by rw [harmed, ← hrunning]
      refine ⟨hrunning, (h.launched _ harmed').grow _ (Nat.le_refl _), ?_⟩
      rw [List.getElem?_concat_length, harmed']
    · obtain hold | ⟨-, hmem⟩ := getElem?_grown hnote
      · exact (h.failed i question e hold).isLast.elim
      · simp at hmem
  | asking question =>
    refine h.advance [.answered session question (Link.serve link .queryHalt).answer]
      (.informed notes.length _) (by simp) (fun a harmed => ?_) (fun i answer hstage => ?_)
      fun i question e hnote => ?_
    · obtain ⟨hrunning, hasked⟩ := h.minds a harmed
      have hquestion : question < notes.length := (List.getElem?_eq_some_iff.1 hasked.issued).1
      exact ⟨hrunning, question, hquestion, hasked.grow _, List.getElem?_concat_length⟩
    · cases hstage
      exact ⟨question, List.getElem?_concat_length⟩
    · obtain hold | ⟨hle, hmem⟩ := getElem?_grown hnote
      · exact (h.failed i _ e hold).isLast.elim
      · have hlt := (List.getElem?_eq_some_iff.1 hnote).1
        obtain rfl : i = notes.length := by
          simp only [List.length_append, List.length_singleton] at hlt
          omega
        simp only [List.mem_singleton, Note.answered.injEq, true_and] at hmem
        rw [← hmem.2]
        exact .inl rfl
  | informed i answer =>
    rcases answer with e | _ | pc
    · exact h.fire rfl rfl id fun _ => rfl
    · simpa [Watch.turn] using h.restage .idle (fun _ _ => trivial) (by simp) id
    · exact h.fire rfl rfl id False.elim
  | ended => simpa [Watch.turn] using h

end Watch.Sound

/-- What the notes of all sessions have in common, of which there are `count`. -/
structure Recorded (notes : List Note) (count : Nat) : Prop where
  fired : ∀ place session i a, notes[place]? = some (.fired session i (some a)) →
    ∃ outcome, FiredFor notes session place a.wait outcome
  silent : ∀ (place session question : Nat) (e : LinkError),
    notes[place]? = some (.answered session question (.error e)) →
    ∀ (later : Nat) (armed : Option Armed), place < later →
      notes[later]? ≠ some (.issued session armed)
  known : ∀ note ∈ notes, note.session < count

variable {count : Nat}

theorem recorded_nil : Recorded [] 0 :=
  ⟨by simp, by simp, by simp⟩

theorem Recorded.mono (h : Recorded notes count) {count' : Nat} (hcount : count ≤ count') :
    Recorded notes count' :=
  ⟨h.fired, h.silent, fun note hnote => Nat.lt_of_lt_of_le (h.known note hnote) hcount⟩

/-- One more note, which does not tell of a wait that was not asked for. -/
theorem Recorded.concat (h : Recorded notes count) {note : Note} (hsession : note.session < count)
    (hfired : ∀ session i a, note = .fired session i (some a) →
      ∃ outcome, FiredFor (notes ++ [note]) session notes.length a.wait outcome)
    (hissued : ∀ session armed, note = .issued session armed →
      ∀ (i question : Nat) (e : LinkError),
        notes[i]? ≠ some (.answered session question (.error e))) :
    Recorded (notes ++ [note]) count where
  fired place session i a hnote := by
    obtain hold | ⟨hle, hmem⟩ := getElem?_grown hnote
    · obtain ⟨outcome, hfor⟩ := h.fired place session i a hold
      exact ⟨outcome, hfor.grow _⟩
    · have hlt := (List.getElem?_eq_some_iff.1 hnote).1
      obtain rfl : place = notes.length := by
        simp only [List.length_append, List.length_singleton] at hlt
        omega
      exact hfired session i a (List.mem_singleton.1 hmem).symm
  silent place session question e hnote later armed hlater hissue := by
    have hlt := (List.getElem?_eq_some_iff.1 hissue).1
    simp only [List.length_append, List.length_singleton] at hlt
    rw [List.getElem?_append_left (by omega)] at hnote
    obtain hold | ⟨-, hmem⟩ := getElem?_grown hissue
    · exact h.silent place session question e hnote later armed hlater hold
    · exact hissued session armed (List.mem_singleton.1 hmem).symm place question e hnote
  known other hother := by
    obtain hold | hnew := List.mem_append.1 hother
    · exact h.known other hold
    · exact (List.mem_singleton.1 hnew) ▸ hsession

theorem Recorded.turn {δ : Type} [Link δ] (h : Recorded notes count)
    (hwatch : watch.Sound notes session) (hsession : session < count) (link : δ) :
    Recorded (notes ++ (watch.turn session link notes.length).notes) count := by
  obtain ⟨latch, stage⟩ := watch
  cases stage with
  | idle | ticked | ended => simpa [Watch.turn] using h
  | cleared =>
    refine h.concat hsession nofun fun session' armed hnote i question e hanswered => ?_
    cases hnote
    exact (hwatch.failed i question e hanswered).isLast
  | asking question => exact h.concat hsession nofun nofun
  | informed i answer =>
    have hfire : ∀ outcome, outcome? answer = some outcome →
        Recorded (notes ++ [.fired session i latch.armed]) count := by
      intro outcome houtcome
      refine h.concat hsession (fun session' i' a hnote => ?_) nofun
      simp only [Note.fired.injEq] at hnote
      obtain ⟨rfl, rfl, harmed⟩ := hnote
      exact ⟨outcome, hwatch.firedFor rfl houtcome harmed⟩
    rcases answer with e | _ | pc
    · exact hfire _ rfl
    · simpa [Watch.turn] using h
    · exact hfire _ rfl

end Polling

end BoardDebug
