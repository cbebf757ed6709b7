import BoardDebug.Proofs.Halt.Polling
import BoardDebug.Proofs.Session.Slow

namespace BoardDebug

open Relation Routine

instance (request : Request) : Decidable request.Launches :=
  match request with
  | .talk opcode _ => inferInstanceAs (Decidable (opcode = Opcode.resume))
  | .flash _ => inferInstanceAs (Decidable True)
  | .readWords _ _ | .writeWords _ _ | .queryHalt => inferInstanceAs (Decidable False)

namespace Polling

/-- A link with all the tasks that ask it for halts, and what was noted of them. -/
structure Scene (δ : Type) where
  link : δ
  /-- The sessions that are over. Their tasks may still be at work. -/
  former : List Watch
  /-- Where the task of the present session stands. -/
  stage : Stage
  notes : List Note

namespace Scene

variable {δ : Type}

def new (link : δ) : Scene δ :=
  ⟨link, [], .idle, []⟩

/-- The present session is over, and leaves its latch behind. -/
def retire (scene : Scene δ) : Option Latch → Scene δ
  | some latch => { scene with former := scene.former ++ [⟨latch, scene.stage⟩], stage := .idle }
  | none => { scene with stage := .idle }

/-- What is noted of the answer to a request: whether the device has been set going for a wait. -/
def noted (scene : Scene δ) (request : Request) (answer : Except LinkError request.Reply)
    (wait : Option Nat) : List Note :=
  if request.Launches ∧ answer.toBool then
    (wait.map fun wait => .launched scene.former.length wait).toList
  else []

theorem noted_of_launches {scene : Scene δ} {request : Request} (h : request.Launches)
    (reply : request.Reply) (wait : Nat) :
    scene.noted request (.ok reply) (some wait) = [.launched scene.former.length wait] :=
  if_pos ⟨h, rfl⟩

end Scene

/-- Whether a task that stands at `stage` may be recorded so. -/
def Stage.Shows (stage : Stage) (observer : Option Observer) : Prop :=
  match observer with
  | some (.poll _ .fresh) | some (.poll _ (.asleep _)) =>
    match stage with
    | idle | ticked | cleared => True
    | asking _ | informed _ _ | ended => False
  | some (.poll _ (.asking _ _)) =>
    match stage with
    | asking _ | informed _ _ => True
    | idle | ticked | cleared | ended => False
  | some (.poll _ .ended) | some .push | none => True

variable {δ : Type}

/-- The scene in which an errand is run: a session that it ends, or in whose place it puts another
one, is over. -/
def Scene.before (scene : Scene δ) (c : Controller) : Errand → Scene δ
  | .start _ | .startDebug _ => scene.retire (c.session.map (·.dropWait.latch))
  | .finish => scene.retire (c.session.map (·.terminate.latch))
  | .waitForHalt | .step _ | .handle _ | .writeStatus _ => scene

/-- All sessions so far, the present one being the last. -/
def watches (w : Controller × Scene δ) : List Watch :=
  w.2.former ++ (w.1.session.map fun s => ⟨s.latch, w.2.stage⟩).toList

section Session

variable {s s' : Session} {scene scene' : Scene δ}

/-- The notes of `count` sessions are true of those that are over. -/
structure Past (scene : Scene δ) (count : Nat) : Prop where
  former : ∀ (k : Nat) (watch : Watch), scene.former[k]? = some watch → watch.Sound scene.notes k
  recorded : Recorded scene.notes count

/-- The notes are true of a session and of those before it. -/
structure Base (s : Session) (scene : Scene δ) : Prop where
  past : Past scene (scene.former.length + 1)
  watch : Watch.Sound scene.notes scene.former.length ⟨s.latch, scene.stage⟩
  shows : scene.stage.Shows s.observer

/-- What a step of a task does to its latch, seen from the session. -/
def Moves (latch : Latch) (stage : Stage) (latch' : Latch) (stage' : Stage) : Prop :=
  latch' = latch ∧ (stage'.IsBusy → stage.IsBusy ∨ latch.isWaiting) ∨
    stage.IsBusy ∧ ¬stage'.IsBusy ∧ ∃ outcome ≠ .superseded, latch' = (latch.complete outcome).2

theorem moves_refl (latch : Latch) (stage : Stage) : Moves latch stage latch stage :=
  .inl ⟨rfl, .inl⟩

/-- Nobody waits in a session, and its task is not at work. -/
def Still (phase : Phase) (s : Session) (stage : Stage) : Prop :=
  s.phase = phase ∧ s.wait = none ∧ s.latch.armed = none ∧ ¬stage.IsBusy

/-- A session waits for a device that has not been set going. -/
def Readied (phase : Phase) (s : Session) (stage : Stage) : Prop :=
  s.phase = phase ∧ ¬stage.IsBusy ∧ ∃ wait, s.wait = some wait ∧
    s.latch.armed = some ⟨wait, false⟩ ∧ s.latch.state wait = .pending

/-- A session waits for a device that runs, or its task has heard of the halt. -/
def Runs (s : Session) (stage : Stage) : Prop :=
  s.phase = .armed ∧ ∃ wait, s.wait = some wait ∧
    (s.latch.armed = some ⟨wait, true⟩ ∧ s.latch.state wait = .pending ∨
      s.latch.armed = none ∧ ¬stage.IsBusy ∧
        ∃ outcome ≠ .superseded, s.latch.state wait = .ready outcome)

variable {phase : Phase} {stage stage' : Stage} {latch' : Latch} {observer : Option Observer}

theorem Moves.of_not_waiting (h : Moves s.latch stage latch' stage') (hbusy : ¬stage.IsBusy)
    (hwaiting : s.latch.isWaiting = false) : latch' = s.latch ∧ ¬stage'.IsBusy := by
  obtain ⟨hlatch, hstage⟩ | ⟨hbusy', -⟩ := h
  · exact ⟨hlatch, fun h => (hstage h).elim hbusy (by simp [hwaiting])⟩
  · exact absurd hbusy' hbusy

theorem Still.moves (hs : Still phase s stage) (h : Moves s.latch stage latch' stage') :
    Still phase { s with latch := latch', observer } stage' := by
  obtain ⟨hphase, hwait, harmed, hbusy⟩ := hs
  obtain ⟨rfl, hbusy'⟩ := h.of_not_waiting hbusy (by simp [Latch.isWaiting, harmed])
  exact ⟨hphase, hwait, harmed, hbusy'⟩

theorem Readied.moves (hs : Readied phase s stage) (h : Moves s.latch stage latch' stage') :
    Readied phase { s with latch := latch', observer } stage' := by
  obtain ⟨hphase, hbusy, wait, hwait, harmed, hpending⟩ := hs
  obtain ⟨rfl, hbusy'⟩ := h.of_not_waiting hbusy (by simp [Latch.isWaiting, harmed])
  exact ⟨hphase, hbusy', wait, hwait, harmed, hpending⟩

theorem Runs.moves (hs : Runs s stage) (h : Moves s.latch stage latch' stage') :
    Runs { s with latch := latch', observer } stage' := by
  obtain ⟨hphase, wait, hwait, ⟨harmed, hpending⟩ | ⟨harmed, hbusy, hready⟩⟩ := hs
  · obtain ⟨rfl, -⟩ | ⟨-, hbusy, outcome, houtcome, rfl⟩ := h
    · exact ⟨hphase, wait, hwait, .inl ⟨harmed, hpending⟩⟩
    · -- The task fires the latch for the wait that it is armed for.
      exact ⟨hphase, wait, hwait, .inr ⟨Latch.armed_complete _ _, hbusy, outcome, houtcome,
        Latch.state_complete harmed hpending outcome⟩⟩
  · obtain ⟨rfl, hbusy'⟩ := h.of_not_waiting hbusy (by simp [Latch.isWaiting, harmed])
    exact ⟨hphase, wait, hwait, .inr ⟨harmed, hbusy', hready⟩⟩

/-- A session of some kind, of which the notes are true. -/
def Holds (kind : Session → Stage → Prop) (w : Session × Scene δ) : Prop :=
  Base w.1 w.2 ∧ kind w.1 w.2.stage

/-- No step of a task makes another kind of session. -/
def IsKept (kind : Session → Stage → Prop) : Prop :=
  ∀ {s : Session} {stage stage' : Stage} {latch' : Latch} {observer : Option Observer},
    kind s stage → Moves s.latch stage latch' stage' →
      kind { s with latch := latch', observer } stage'

/-- How a session may be left: if it is armed or paused, it is so in one piece. -/
structure Fair (s : Session) (stage : Stage) : Prop where
  paused : s.phase = .paused → Still .paused s stage
  armed : s.phase = .armed → Runs s stage ∨ Still .armed s stage

theorem isKept_fair : IsKept Fair := by
  intro s stage stage' latch' observer hs hmoves
  exact ⟨fun hphase => (hs.paused hphase).moves hmoves,
    fun hphase => (hs.armed hphase).imp (·.moves hmoves) (·.moves hmoves)⟩

theorem Still.fair (h : Still phase s stage) : Fair s stage := by
  obtain ⟨rfl, hrest⟩ := h
  exact ⟨fun hphase => ⟨hphase, hrest⟩, fun hphase => .inr ⟨hphase, hrest⟩⟩

theorem Readied.fair (h : Readied phase s stage) (hphase : phase ≠ .paused ∧ phase ≠ .armed) :
    Fair s stage :=
  ⟨fun hpaused => absurd (h.1.symm.trans hpaused) hphase.1,
    fun harmed => absurd (h.1.symm.trans harmed) hphase.2⟩

theorem Runs.fair (h : Runs s stage) : Fair s stage where
  paused hphase := by cases h.1.symm.trans hphase
  armed _ := .inl h

/-- The link has acknowledged that it set the device going for the wait of the session. -/
def Launched (w : Session × Scene δ) : Prop :=
  ∀ wait, w.1.wait = some wait →
    LaunchedBefore w.2.notes w.2.former.length w.2.notes.length wait

/-- A new wait is handed out while the task is not at work. -/
theorem holds_arm {w : Session × Scene δ} (h : Holds (Still phase) w) :
    Holds (Readied phase) (w.1.arm, w.2) := by
  obtain ⟨hbase, hphase, hwait, harmed, hbusy⟩ := h
  rw [Session.arm_of_none hwait]
  exact ⟨⟨hbase.past, hbase.watch.arm hbusy, hbase.shows⟩,
    hphase, hbusy, _, rfl, Latch.armed_arm _, Latch.state_arm _⟩

theorem Base.dropWait (h : Base s scene) : Base s.dropWait scene := by
  unfold Session.dropWait
  split
  · exact ⟨h.past, h.watch.drop _, h.shows⟩
  · exact h

theorem Base.terminate (h : Base s scene) : Base s.terminate scene :=
  ⟨h.past, h.dropWait.watch.disarm, trivial⟩

theorem fair_terminate (s : Session) (stage : Stage) : Fair s.terminate stage :=
  ⟨nofun, nofun⟩

/-- A session in which nobody waits, with what a halt in it is explained by. -/
def Silent (table : BreakpointTable) (index : ProcedureIndex) (s : Session) (stage : Stage) :
    Prop :=
  Still .armed s stage ∧ s.table = table ∧ s.index = index

/-- What was noted before has nothing to do with a session that begins. -/
theorem holds_new {scene : Scene δ} (h : Past scene scene.former.length)
    (hstage : scene.stage = .idle) (program : Program) (table : BreakpointTable)
    {observer : Observer} (hobserver : scene.stage.Shows (some observer)) :
    Holds (Still .starting) (Session.new program table observer, scene) := by
  have hunknown : ∀ (i : Nat) (note : Note), scene.notes[i]? = some note →
      note.session ≠ scene.former.length := fun i note hnote =>
    Nat.ne_of_lt (h.recorded.known note (List.mem_of_getElem? hnote))
  refine ⟨⟨⟨h.former, h.recorded.mono (Nat.le_succ _)⟩, ?_, hobserver⟩, rfl, rfl, rfl, ?_⟩
  · refine ⟨nofun, fun place wait outcome hfired => ?_, nofun, nofun, nofun, fun i answer hi => ?_,
      fun i question e hnote => absurd rfl (hunknown i _ hnote)⟩
    · obtain ⟨_, -, _, -, -, hnote⟩ := hfired
      exact absurd rfl (hunknown place _ hnote)
    · cases hstage.symm.trans hi
  · rw [hstage]
    exact id

end Session

section Controller

variable {α : Type} {w : Controller × Scene δ}

/-- A controller that is not told of halts, with a session as calls leave it or with none. -/
structure Sound (w : Controller × Scene δ) : Prop where
  deaf : w.1.listening = false
  strategy : w.1.config.strategy = .poll
  session : ∀ s, w.1.session = some s → Holds Fair (s, w.2)
  rest : w.1.session = none → Past w.2 w.2.former.length

/-- A controller whose session is over. -/
structure Vacant (w : Controller × Scene δ) : Prop where
  deaf : w.1.listening = false
  strategy : w.1.config.strategy = .poll
  stage : w.2.stage = .idle
  past : Past w.2 w.2.former.length

theorem Sound.seat (h : Sound w) {s : Session} {scene : Scene δ} (hs : Holds Fair (s, scene)) :
    Sound (w.1.seat s, scene) where
  deaf := h.deaf
  strategy := h.strategy
  session := by
    rintro s' hs'
    cases hs'
    exact hs
  rest := nofun

theorem Sound.settle (h : Sound w) (result : Except SessionError α) :
    Sound (w.1.settle result, w.2) := by
  cases result with
  | ok a => exact h
  | error e =>
    simp only [Controller.settle]
    split
    case isTrue => exact h
    case isFalse =>
      refine ⟨h.deaf, h.strategy, fun s hs => ?_, fun hnone => h.rest (by simpa using hnone)⟩
      obtain ⟨s', hs', rfl⟩ := Option.map_eq_some_iff.1 hs
      exact ⟨(h.session s' hs').1.terminate, fair_terminate _ _⟩

theorem Sound.vacant (h : Sound w) (latch : Session → Latch)
    (hlatch : ∀ s, Base s w.2 → Watch.Sound w.2.notes w.2.former.length ⟨latch s, w.2.stage⟩) :
    Vacant (w.1, w.2.retire (w.1.session.map latch)) := by
  cases hsession : w.1.session with
  | none => exact ⟨h.deaf, h.strategy, rfl, ⟨(h.rest hsession).former, (h.rest hsession).recorded⟩⟩
  | some s =>
    have hbase := (h.session s hsession).1
    refine ⟨h.deaf, h.strategy, rfl, fun k watch hwatch => ?_, ?_⟩
    · dsimp only [Option.map_some, Scene.retire] at hwatch ⊢
      obtain hlt | hle := Nat.lt_or_ge k w.2.former.length
      · rw [List.getElem?_append_left hlt] at hwatch
        exact hbase.past.former k watch hwatch
      · have hk := (List.getElem?_eq_some_iff.1 hwatch).1
        obtain rfl : k = w.2.former.length := by
          simp only [List.length_append, List.length_singleton] at hk
          omega
        rw [List.getElem?_concat_length] at hwatch
        cases hwatch
        exact hlatch s hbase
    · dsimp only [Option.map_some, Scene.retire]
      rw [List.length_append]
      exact hbase.past.recorded

theorem install_of_poll {has : Capabilities} {interval : Nat} {observer : Observer}
    (h : Observer.install has .poll interval = .ok observer) :
    observer = .poll interval .fresh := by
  unfold Observer.install HaltStrategy.usesEvents at h
  cases hquery : has.statusQuery <;> simp only [hquery] at h <;> cases h
  rfl

theorem Vacant.embark (h : Vacant w) {s : Session} {interval : Nat} {stage : PollStage} :
    (w.1.embark s (.poll interval stage)).listening = false := by
  simp [Controller.embark, h.deaf]

theorem Sound.watch (h : Sound w) {k : Nat} {watch : Watch}
    (hwatch : (watches w)[k]? = some watch) : watch.Sound w.2.notes k := by
  unfold watches at hwatch
  cases hsession : w.1.session with
  | none =>
    simp only [hsession, Option.map_none, Option.toList_none, List.append_nil] at hwatch
    exact (h.rest hsession).former k watch hwatch
  | some s =>
    have hbase := (h.session s hsession).1
    simp only [hsession, Option.map_some, Option.toList_some] at hwatch
    obtain hlt | hle := Nat.lt_or_ge k w.2.former.length
    · rw [List.getElem?_append_left hlt] at hwatch
      exact hbase.past.former k watch hwatch
    · have hk := (List.getElem?_eq_some_iff.1 hwatch).1
      obtain rfl : k = w.2.former.length := by
        simp only [List.length_append, List.length_singleton] at hk
        omega
      rw [List.getElem?_concat_length] at hwatch
      cases hwatch
      exact hbase.watch

theorem Sound.recorded (h : Sound w) : Recorded w.2.notes (watches w).length := by
  unfold watches
  cases hsession : w.1.session with
  | none => simpa using (h.rest hsession).recorded
  | some s => simpa using (h.session s hsession).1.past.recorded

theorem getElem?_watches {s : Session} (h : w.1.session = some s) :
    (watches w)[w.2.former.length]? = some ⟨s.latch, w.2.stage⟩ := by
  simp [watches, h]

end Controller

end Polling

end BoardDebug
