import BoardDebug.Session.Call
import Mathlib.Logic.Relation

namespace BoardDebug

open Relation

namespace Call

variable {σ τ δ α β : Type} [Link δ]

/-- What a call can come to on a link that answers at once. Whenever the call waits, `happens` may
go on around it for as long as it likes; then the call is given up, or goes on if it can. -/
inductive Outcome (notify : Event → σ → σ) (happens : σ × δ → σ × δ → Prop) :
    Call σ α → δ → Run σ δ α → Prop where
  | done (state : σ) (result : α) (link : δ) :
      Outcome notify happens (.done state result) link ⟨some result, state, link⟩
  | ask {state : σ} {request : Request} {next : Except LinkError request.Reply → σ → Call σ α}
      {link : δ} {run : Run σ δ α} :
      Outcome notify happens
        (next (Link.serve link request).answer
          ((Link.serve link request).events.foldl (fun s e => notify e s) state))
        (Link.serve link request).link run →
      Outcome notify happens (.ask state request next) link run
  | givenUp {state state' : σ} {ready : σ → Option HaltOutcome} {next : HaltOutcome → σ → Call σ α}
      {link link' : δ} :
      ReflTransGen happens (state, link) (state', link') →
      Outcome notify happens (.await state ready next) link ⟨none, state', link'⟩
  | woken {state state' : σ} {ready : σ → Option HaltOutcome} {next : HaltOutcome → σ → Call σ α}
      {link link' : δ} {outcome : HaltOutcome} {run : Run σ δ α} :
      ReflTransGen happens (state, link) (state', link') →
      ready state' = some outcome →
      Outcome notify happens (next outcome state') link' run →
      Outcome notify happens (.await state ready next) link run

/-- Whether a call never waits. -/
def IsDirect : Call σ α → Prop
  | done _ _ => True
  | ask _ _ next => ∀ answer state, (next answer state).IsDirect
  | await _ _ _ => False

namespace Run

/-- Goes on with `f` when a run is done. -/
def andThen (run : Run σ δ α) (f : α → σ → δ → Run σ δ β) : Run σ δ β :=
  match run.result with
  | some a => f a run.state run.link
  | none => ⟨none, run.state, run.link⟩

end Run

variable {notify : Event → σ → σ} {happens : σ × δ → σ × δ → Prop}

theorem run_bind (call : Call σ α) (f : α → σ → Call σ β) (link : δ) :
    (call.bind f).run notify link =
      (call.run notify link).andThen fun a s d => (f a s).run notify d := by
  induction call generalizing link with
  | done state result => rfl
  | ask state request next ih => exact ih _ _ _
  | await state ready next ih =>
    simp only [Call.bind, run]
    cases ready state with
    | none => rfl
    | some outcome => exact ih _ _ _

/-- To run a call with nothing around it is one of its outcomes. -/
theorem outcome_run (call : Call σ α) (link : δ) :
    Outcome notify happens call link (call.run notify link) := by
  induction call generalizing link with
  | done state result => exact .done _ _ _
  | ask state request next ih => exact .ask (ih _ _ _)
  | await state ready next ih =>
    simp only [run]
    cases h : ready state with
    | none => exact .givenUp .refl
    | some outcome => exact .woken .refl h (ih _ _ _)

/-- A call that never waits has one outcome. -/
theorem Outcome.eq_run {call : Call σ α} {link : δ} {r : Run σ δ α}
    (h : Outcome notify happens call link r) (hc : call.IsDirect) : r = call.run notify link := by
  induction h with
  | done => rfl
  | ask _ ih => exact ih (hc _ _)
  | givenUp => exact hc.elim
  | woken => exact hc.elim

/-- A call that never waits comes to its end. -/
theorem isSome_run {call : Call σ α} (h : call.IsDirect) (link : δ) :
    (call.run notify link).result.isSome := by
  induction call generalizing link with
  | done state result => rfl
  | ask state request next ih => exact ih _ _ (h _ _) _
  | await => exact h.elim

/-- The outcomes of a call that goes on after another. -/
theorem Outcome.of_bind {call : Call σ α} {f : α → σ → Call σ β} {link : δ} {r : Run σ δ β}
    (h : Outcome notify happens (call.bind f) link r) :
    ∃ mid, Outcome notify happens call link mid ∧
      match mid.result with
      | some a => Outcome notify happens (f a mid.state) mid.link r
      | none => r = ⟨none, mid.state, mid.link⟩ := by
  induction call generalizing link with
  | done state result => exact ⟨_, .done _ _ _, h⟩
  | ask state request next ih =>
    cases h with
    | ask h =>
      obtain ⟨mid, hmid, hr⟩ := ih _ _ h
      exact ⟨mid, .ask hmid, hr⟩
  | await state ready next ih =>
    cases h with
    | givenUp h => exact ⟨_, .givenUp h, rfl⟩
    | woken hh ho h =>
      obtain ⟨mid, hmid, hr⟩ := ih _ _ h
      exact ⟨mid, .woken hh ho hmid, hr⟩

theorem run_await_of_some {state : σ} {ready : σ → Option HaltOutcome}
    {next : HaltOutcome → σ → Call σ α} {outcome : HaltOutcome} (h : ready state = some outcome)
    (link : δ) :
    (await state ready next).run notify link = (next outcome state).run notify link := by
  simp only [run, h]

theorem run_await_of_none {state : σ} {ready : σ → Option HaltOutcome}
    {next : HaltOutcome → σ → Call σ α} (h : ready state = none) (link : δ) :
    (await state ready next).run notify link = ⟨none, state, link⟩ := by
  simp only [run, h]

/-- A call that is done goes on with what comes after it. -/
theorem Outcome.bind {call : Call σ α} {f : α → σ → Call σ β} {link : δ} {mid : Run σ δ α}
    {r : Run σ δ β} {a : α} (h : Outcome notify happens call link mid)
    (hresult : mid.result = some a) (hrest : Outcome notify happens (f a mid.state) mid.link r) :
    Outcome notify happens (call.bind f) link r := by
  induction h with
  | done =>
    cases hresult
    exact hrest
  | ask _ ih => exact .ask (ih hresult hrest)
  | givenUp => cases hresult
  | woken hpassed hready _ ih => exact .woken hpassed hready (ih hresult hrest)

/-- What comes of a call with nothing around it, unless it is given up. -/
theorem Outcome.eq_run_of_alone {call : Call σ α} {link : δ} {r : Run σ δ α}
    (h : Outcome notify (fun _ _ => False) call link r) (hr : r.result.isSome) :
    r = call.run notify link := by
  induction h with
  | done => rfl
  | ask _ ih => exact ih hr
  | givenUp => cases hr
  | woken hpassed hready _ ih =>
    obtain heq | ⟨_, -, hfalse⟩ := hpassed.cases_tail
    · cases heq
      rw [ih hr, run, hready]
    · exact hfalse.elim

theorem isDirect_bind {call : Call σ α} {f : α → σ → Call σ β} (h : call.IsDirect)
    (hf : ∀ a s, (f a s).IsDirect) : (call.bind f).IsDirect := by
  induction call with
  | done state result => exact hf _ _
  | ask state request next ih => exact fun answer s => ih _ _ (h answer s)
  | await => exact h.elim

omit [Link δ] in
theorem isDirect_within {get : τ → Option σ} {put : σ → τ → τ} {call : Call σ α}
    (h : call.IsDirect) (whole : τ) : (call.within get put whole).IsDirect := by
  induction call generalizing whole with
  | done state result => trivial
  | ask state request next ih => exact fun answer whole => ih _ _ (h _ _) _
  | await => exact h.elim

/-- A part of a state that stays in place, in the states that `put` makes of `whole`: events and
happenings reach the whole through it. -/
structure Lodges (get : τ → Option σ) (put : σ → τ → τ) (whole : τ) (notify : Event → σ → σ)
    (happens : σ × δ → σ × δ → Prop) (notify' : Event → τ → τ)
    (happens' : τ × δ → τ × δ → Prop) : Prop where
  get_put : ∀ s, get (put s whole) = some s
  put_put : ∀ s s', put s (put s' whole) = put s whole
  notify_put : ∀ e s, notify' e (put s whole) = put (notify e s) whole
  happens_put : ∀ s d t d', happens' (put s whole, d) (t, d') →
    ∃ s', t = put s' whole ∧ happens (s, d) (s', d')

namespace Lodges

variable {get : τ → Option σ} {put : σ → τ → τ} {whole : τ} {notify' : Event → τ → τ}
  {happens' : τ × δ → τ × δ → Prop}
  (l : Lodges get put whole notify happens notify' happens')

include l

omit [Link δ] in
theorem foldl_notify (events : List Event) (s : σ) :
    events.foldl (fun s e => notify' e s) (put s whole) =
      put (events.foldl (fun s e => notify e s) s) whole := by
  induction events generalizing s with
  | nil => rfl
  | cons e events ih => rw [List.foldl_cons, List.foldl_cons, l.notify_put, ih]

omit [Link δ] in
theorem within_put (call : Call σ α) (s : σ) :
    call.within get put (put s whole) = call.within get put whole := by
  cases call <;> simp only [within, l.put_put]

omit [Link δ] in
theorem happens_all {s : σ} {d : δ} {t : τ} {d' : δ}
    (h : ReflTransGen happens' (put s whole, d) (t, d')) :
    ∃ s', t = put s' whole ∧ ReflTransGen happens (s, d) (s', d') := by
  generalize hq : (t, d') = q at h
  induction h generalizing t d' with
  | refl =>
    cases hq
    exact ⟨s, rfl, .refl⟩
  | @tail p q _ hpq ih =>
    subst hq
    obtain ⟨s₁, hs₁, h₁⟩ := ih rfl
    obtain ⟨s₂, rfl, h₂⟩ := l.happens_put s₁ p.2 t d' (hs₁ ▸ hpq)
    exact ⟨s₂, rfl, h₁.tail h₂⟩

/-- The outcomes of a call on the part. -/
theorem of_within {call : Call σ α} {link : δ} {r : Run τ δ α}
    (h : Outcome notify' happens' (call.within get put whole) link r) :
    ∃ run, Outcome notify happens call link run ∧
      r = ⟨run.result, put run.state whole, run.link⟩ := by
  induction call generalizing link with
  | done state result =>
    cases h
    exact ⟨_, .done _ _ _, rfl⟩
  | ask state request next ih =>
    cases h with
    | ask h =>
      simp only [l.foldl_notify, l.get_put, Option.getD_some, l.within_put] at h
      obtain ⟨run, hrun, hr⟩ := ih _ _ h
      exact ⟨run, .ask hrun, hr⟩
  | await state ready next ih =>
    cases h with
    | givenUp h =>
      obtain ⟨s', rfl, hs'⟩ := l.happens_all h
      exact ⟨_, .givenUp hs', rfl⟩
    | woken hh ho h =>
      obtain ⟨s', rfl, hs'⟩ := l.happens_all hh
      simp only [l.get_put, Option.getD_some, l.within_put] at ho h
      obtain ⟨run, hrun, hr⟩ := ih _ _ h
      exact ⟨run, .woken hs' ho hrun, hr⟩

/-- To run a call on the part is to run it within the whole. -/
theorem run_within (call : Call σ α) (link : δ) :
    (call.within get put whole).run notify' link =
      ⟨(call.run notify link).result, put (call.run notify link).state whole,
        (call.run notify link).link⟩ := by
  induction call generalizing link with
  | done state result => rfl
  | ask state request next ih =>
    simp only [within, run, l.foldl_notify, l.get_put, Option.getD_some, l.within_put]
    exact ih _ _ _
  | await state ready next ih =>
    simp only [within, run, l.get_put, Option.getD_some, l.within_put]
    cases ready state with
    | none => rfl
    | some outcome => exact ih _ _ _

end Lodges

end Call

end BoardDebug
