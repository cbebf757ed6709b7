import BoardDebug.Proofs.Call.Outcome

namespace BoardDebug

variable {σ δ α β : Type}

namespace Call.Run

/-- Goes on with `f` unless the run failed. -/
def next (run : Run σ δ (Except SessionError α))
    (f : α → σ → δ → Run σ δ (Except SessionError β)) : Run σ δ (Except SessionError β) :=
  run.andThen fun result s d =>
    match result with
    | .ok a => f a s d
    | .error error => ⟨some (.error error), s, d⟩

/-- The run is over, with `ok` of its result or `bad` of its error. -/
def Ends (ok : α → σ → δ → Prop) (bad : SessionError → σ → δ → Prop)
    (run : Run σ δ (Except SessionError α)) : Prop :=
  match run.result with
  | some (.ok a) => ok a run.state run.link
  | some (.error error) => bad error run.state run.link
  | none => False

variable {ok : α → σ → δ → Prop} {bad : SessionError → σ → δ → Prop}

@[simp] theorem ends_ok (a : α) (s : σ) (d : δ) :
    (⟨some (.ok a), s, d⟩ : Run σ δ (Except SessionError α)).Ends ok bad ↔ ok a s d := .rfl

@[simp] theorem ends_error (e : SessionError) (s : σ) (d : δ) :
    (⟨some (.error e), s, d⟩ : Run σ δ (Except SessionError α)).Ends ok bad ↔ bad e s d := .rfl

theorem ends_next (run : Run σ δ (Except SessionError β))
    (f : β → σ → δ → Run σ δ (Except SessionError α)) :
    (run.next f).Ends ok bad ↔ run.Ends (fun b s d => (f b s d).Ends ok bad) bad := by
  obtain ⟨result, s, d⟩ := run
  rcases result with _ | e | b <;> rfl

theorem Ends.mono {run : Run σ δ (Except SessionError α)} {ok' : α → σ → δ → Prop}
    {bad' : SessionError → σ → δ → Prop} (h : run.Ends ok bad) (hok : ∀ a s d, ok a s d → ok' a s d)
    (hbad : ∀ e s d, bad e s d → bad' e s d) : run.Ends ok' bad' := by
  obtain ⟨result, s, d⟩ := run
  rcases result with _ | e | a
  · exact h
  · exact hbad e s d h
  · exact hok a s d h

theorem Ends.of_ok {run : Run σ δ (Except SessionError α)} {a : α} (h : run.Ends ok bad)
    (hrun : run.result = some (.ok a)) : ok a run.state run.link := by
  simpa only [Ends, hrun] using h

theorem Ends.of_error {run : Run σ δ (Except SessionError α)} {e : SessionError}
    (h : run.Ends ok bad) (hrun : run.result = some (.error e)) : bad e run.state run.link := by
  simpa only [Ends, hrun] using h

theorem Ends.exists_ok {run : Run σ δ (Except SessionError α)}
    (h : run.Ends ok fun _ _ _ => False) :
    ∃ a, run.result = some (.ok a) ∧ ok a run.state run.link := by
  obtain ⟨result, s, d⟩ := run
  rcases result with _ | e | a
  · exact h.elim
  · exact h.elim
  · exact ⟨a, rfl, h⟩

end Call.Run

namespace Routine

/-- Runs a routine on a link that answers at once. -/
def run [Link δ] (notify : Event → σ → σ) (r : Routine σ α) (s : σ) (d : δ) :
    Call.Run σ δ (Except SessionError α) :=
  Call.run notify (r s) d

/-- Whether a routine never waits. -/
def IsDirect (r : Routine σ α) : Prop :=
  ∀ s, Call.IsDirect (r s)

section Run

variable [Link δ] {notify : Event → σ → σ}

@[simp] theorem run_pure (a : α) (s : σ) (d : δ) :
    run notify (pure a) s d = ⟨some (.ok a), s, d⟩ := rfl

@[simp] theorem run_fail (e : SessionError) (s : σ) (d : δ) :
    run notify (fail e : Routine σ α) s d = ⟨some (.error e), s, d⟩ := rfl

@[simp] theorem run_get (s : σ) (d : δ) :
    run notify get s d = ⟨some (.ok s), s, d⟩ := rfl

@[simp] theorem run_modify (f : σ → σ) (s : σ) (d : δ) :
    run notify (modify f) s d = ⟨some (.ok ()), f s, d⟩ := rfl

theorem run_bind (r : Routine σ α) (f : α → Routine σ β) (s : σ) (d : δ) :
    run notify (r >>= f) s d = (run notify r s d).next fun a s d => run notify (f a) s d := by
  refine (Call.run_bind _ _ _).trans ?_
  unfold run Call.Run.next Call.Run.andThen
  rcases (Call.run notify (r s) d).result with _ | e | a <;> rfl

theorem run_ask (request : Request) (s : σ) (d : δ) :
    run notify (ask request) s d =
      let served := Link.serve d request
      let s := served.events.foldl (fun s e => notify e s) s
      match served.answer with
      | .ok reply => ⟨some (.ok reply), s, served.link⟩
      | .error e => ⟨some (.error (.link e)), s, served.link⟩ := by
  simp only [run, ask, Call.run]
  cases (Link.serve d request).answer <;> rfl

theorem run_await {ready : σ → Option HaltOutcome} {s : σ} {outcome : HaltOutcome}
    (h : ready s = some outcome) (d : δ) :
    run notify (await ready) s d = ⟨some (.ok outcome), s, d⟩ := by
  simp only [run, await, Call.run, h]

theorem ends_bind {r : Routine σ β} {f : β → Routine σ α} {s : σ} {d : δ}
    {ok : α → σ → δ → Prop} {bad : SessionError → σ → δ → Prop} :
    (run notify (r >>= f) s d).Ends ok bad ↔
      (run notify r s d).Ends (fun b s d => (run notify (f b) s d).Ends ok bad) bad := by
  rw [run_bind, Call.Run.ends_next]

theorem ends_of_bind {r : Routine σ β} {f : β → Routine σ α} {s : σ} {d : δ}
    {mid : β → σ → δ → Prop} {ok : α → σ → δ → Prop} {bad : SessionError → σ → δ → Prop}
    (hr : (run notify r s d).Ends mid bad)
    (hf : ∀ b s d, mid b s d → (run notify (f b) s d).Ends ok bad) :
    (run notify (r >>= f) s d).Ends ok bad :=
  ends_bind.2 (hr.mono hf fun _ _ _ h => h)

end Run

section Outcome

variable [Link δ] {notify : Event → σ → σ} {happens : σ × δ → σ × δ → Prop} {s : σ} {d : δ}

/-- The outcomes of a routine that goes on after another. -/
theorem outcome_bind {r : Routine σ α} {f : α → Routine σ β}
    {run : Call.Run σ δ (Except SessionError β)}
    (h : Call.Outcome notify happens ((r >>= f : Routine σ β) s) d run) :
    ∃ mid, Call.Outcome notify happens (r s) d mid ∧
      match mid.result with
      | some (.ok a) => Call.Outcome notify happens (f a mid.state) mid.link run
      | some (.error error) => run = ⟨some (.error error), mid.state, mid.link⟩
      | none => run = ⟨none, mid.state, mid.link⟩ := by
  obtain ⟨mid, hmid, hrun⟩ := Call.Outcome.of_bind h
  refine ⟨mid, hmid, ?_⟩
  rcases hresult : mid.result with _ | error | a <;> simp only [hresult] at hrun ⊢
  · exact hrun
  · cases hrun
    rfl
  · exact hrun

end Outcome

section IsDirect

theorem isDirect_pure (a : α) : (pure a : Routine σ α).IsDirect := fun _ => trivial

theorem isDirect_fail (e : SessionError) : (fail e : Routine σ α).IsDirect := fun _ => trivial

theorem isDirect_get : (get : Routine σ σ).IsDirect := fun _ => trivial

theorem isDirect_modify (f : σ → σ) : (modify f : Routine σ Unit).IsDirect := fun _ => trivial

theorem isDirect_ask (request : Request) : (ask request : Routine σ _).IsDirect := by
  intro _ answer _
  cases answer <;> trivial

theorem isDirect_bind {r : Routine σ α} {f : α → Routine σ β} (h : r.IsDirect)
    (hf : ∀ a, (f a).IsDirect) : (r >>= f).IsDirect := by
  refine fun s => Call.isDirect_bind (h s) fun result s => ?_
  cases result with
  | ok a => exact hf a s
  | error e => trivial

end IsDirect

end Routine

section Alike

variable {τ ε : Type}

/-- Two runs with the same result, whose ends are related. -/
structure Call.Run.Alike (related : σ × δ → τ × ε → Prop) (run : Run σ δ α) (run' : Run τ ε α) :
    Prop where
  result : run.result = run'.result
  ends : related (run.state, run.link) (run'.state, run'.link)

namespace Routine

variable [Link δ] [Link ε] (notify : Event → σ → σ) (notify' : Event → τ → τ)
variable (related : σ × δ → τ × ε → Prop)

/-- Two routines that have the same result and keep related what is related. -/
def Alike (r : Routine σ α) (r' : Routine τ α) : Prop :=
  ∀ s d s' d', related (s, d) (s', d') → (run notify r s d).Alike related (run notify' r' s' d')

variable {notify notify' related}

theorem alike_pure (a : α) : Alike notify notify' related (pure a) (pure a) :=
  fun _ _ _ _ h => ⟨rfl, h⟩

theorem alike_fail (e : SessionError) :
    Alike notify notify' related (fail e : Routine σ α) (fail e) :=
  fun _ _ _ _ h => ⟨rfl, h⟩

theorem alike_modify {f : σ → σ} {f' : τ → τ}
    (h : ∀ s d s' d', related (s, d) (s', d') → related (f s, d) (f' s', d')) :
    Alike notify notify' related (modify f) (modify f') :=
  fun s d s' d' hrelated => ⟨rfl, h s d s' d' hrelated⟩

theorem alike_get {f : σ → Routine σ α} {f' : τ → Routine τ α}
    (h : ∀ s d s' d', related (s, d) (s', d') → Alike notify notify' related (f s) (f' s')) :
    Alike notify notify' related (get >>= f) (get >>= f') :=
  fun s d s' d' hrelated => h s d s' d' hrelated s d s' d' hrelated

theorem alike_ask {request : Request}
    (h : ∀ s d s' d', related (s, d) (s', d') →
      (Link.serve d request).answer = (Link.serve d' request).answer ∧
        related ((Link.serve d request).events.foldl (fun s e => notify e s) s,
            (Link.serve d request).link)
          ((Link.serve d' request).events.foldl (fun s e => notify' e s) s',
            (Link.serve d' request).link)) :
    Alike notify notify' related (ask request) (ask request) := by
  intro s d s' d' hrelated
  obtain ⟨hanswer, hends⟩ := h s d s' d' hrelated
  rw [run_ask, run_ask]
  dsimp only
  rw [← hanswer]
  cases (Link.serve d request).answer with
  | ok reply => exact ⟨rfl, hends⟩
  | error e => exact ⟨rfl, hends⟩

theorem alike_bind {r : Routine σ β} {r' : Routine τ β} {f : β → Routine σ α}
    {f' : β → Routine τ α} (hr : Alike notify notify' related r r')
    (hf : ∀ b, Alike notify notify' related (f b) (f' b)) :
    Alike notify notify' related (r >>= f) (r' >>= f') := by
  intro s d s' d' hrelated
  obtain ⟨hresult, hends⟩ := hr s d s' d' hrelated
  rw [run_bind, run_bind]
  unfold Call.Run.next Call.Run.andThen
  rw [← hresult]
  rcases (run notify r s d).result with _ | e | b
  · exact ⟨rfl, hends⟩
  · exact ⟨rfl, hends⟩
  · exact hf b _ _ _ _ hends

end Routine

end Alike

end BoardDebug
