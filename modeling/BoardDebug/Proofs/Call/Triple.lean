import BoardDebug.Proofs.Call.Outcome
import BoardDebug.Proofs.Call.Routine

namespace BoardDebug.Routine

open Call

section Triple

variable {σ δ α β : Type} [Link δ]
variable (notify : Event → σ → σ) (happens : σ × δ → σ × δ → Prop)

/-- Whatever comes of a routine that is called where `before` holds: `ok` holds of its result, and
`broken` once it has failed or was given up. -/
def Triple (before : σ → δ → Prop) (r : Routine σ α) (ok : α → σ → δ → Prop)
    (broken : σ → δ → Prop) : Prop :=
  ∀ s d run, before s d → Outcome notify happens (r s) d run →
    match run.result with
    | some (.ok a) => ok a run.state run.link
    | _ => broken run.state run.link

variable {notify happens}
variable {before : σ → δ → Prop} {ok : α → σ → δ → Prop} {broken : σ → δ → Prop}

theorem triple_pure {a : α} (h : ∀ s d, before s d → ok a s d) :
    Triple notify happens before (pure a) ok broken := by
  rintro s d run hbefore ⟨⟩
  exact h s d hbefore

theorem triple_fail {e : SessionError} (h : ∀ s d, before s d → broken s d) :
    Triple notify happens before (fail e : Routine σ α) ok broken := by
  rintro s d run hbefore ⟨⟩
  exact h s d hbefore

theorem triple_modify {f : σ → σ} {ok : Unit → σ → δ → Prop}
    (h : ∀ s d, before s d → ok () (f s) d) :
    Triple notify happens before (modify f) ok broken := by
  rintro s d run hbefore ⟨⟩
  exact h s d hbefore

theorem triple_ask {request : Request} {ok : request.Reply → σ → δ → Prop}
    (h : ∀ s d, before s d →
      match (Link.serve d request).answer with
      | .ok reply =>
        ok reply ((Link.serve d request).events.foldl (fun s e => notify e s) s)
          (Link.serve d request).link
      | .error _ =>
        broken ((Link.serve d request).events.foldl (fun s e => notify e s) s)
          (Link.serve d request).link) :
    Triple notify happens before (ask request) ok broken := by
  intro s d run hbefore houtcome
  have h := h s d hbefore
  cases houtcome with
  | ask hrest =>
    cases hanswer : (Link.serve d request).answer with
    | ok reply =>
      rw [hanswer] at h hrest
      cases hrest
      exact h
    | error e =>
      rw [hanswer] at h hrest
      cases hrest
      exact h

theorem triple_await {ready : σ → Option HaltOutcome} {ok : HaltOutcome → σ → δ → Prop}
    (hhappens : ∀ s d s' d', before s d → happens (s, d) (s', d') → before s' d')
    (hok : ∀ outcome s d, before s d → ok outcome s d) (hbroken : ∀ s d, before s d → broken s d) :
    Triple notify happens before (await ready) ok broken := by
  have hall {p q : σ × δ} (hpq : Relation.ReflTransGen happens p q) (hp : before p.1 p.2) :
      before q.1 q.2 := by
    induction hpq with
    | refl => exact hp
    | tail _ hlast ih => exact hhappens _ _ _ _ ih hlast
  rintro s d run hbefore houtcome
  cases houtcome with
  | givenUp hpassed => exact hbroken _ _ (hall hpassed hbefore)
  | woken hpassed _ hrest =>
    cases hrest
    exact hok _ _ _ (hall hpassed hbefore)

theorem triple_bind {r : Routine σ β} {f : β → Routine σ α} {mid : β → σ → δ → Prop}
    (hr : Triple notify happens before r mid broken)
    (hf : ∀ b, Triple notify happens (mid b) (f b) ok broken) :
    Triple notify happens before (r >>= f) ok broken := by
  intro s d run hbefore houtcome
  obtain ⟨begun, hbegun, hrest⟩ := outcome_bind houtcome
  have hmid := hr s d begun hbefore hbegun
  rcases hresult : begun.result with _ | e | b <;> simp only [hresult] at hmid hrest
  · subst hrest
    exact hmid
  · subst hrest
    exact hmid
  · exact hf b _ _ run hmid hrest

theorem Triple.mono {r : Routine σ α} {before' : σ → δ → Prop} {ok' : α → σ → δ → Prop}
    {broken' : σ → δ → Prop} (h : Triple notify happens before r ok broken)
    (hbefore : ∀ s d, before' s d → before s d) (hok : ∀ a s d, ok a s d → ok' a s d)
    (hbroken : ∀ s d, broken s d → broken' s d) :
    Triple notify happens before' r ok' broken' := by
  intro s d run hs houtcome
  have h := h s d run (hbefore s d hs) houtcome
  obtain ⟨result, s', d'⟩ := run
  rcases result with _ | e | a
  · exact hbroken s' d' h
  · exact hbroken s' d' h
  · exact hok a s' d' h

theorem Triple.under {r : Routine σ α} {before' : σ → δ → Prop}
    (h : Triple notify happens before r ok broken) (hbefore : ∀ s d, before' s d → before s d) :
    Triple notify happens before' r ok broken :=
  h.mono hbefore (fun _ _ _ h => h) fun _ _ h => h

theorem Triple.holds {r : Routine σ α} {after : σ → δ → Prop}
    (h : Triple notify happens before r (fun _ => after) after) {s : σ} {d : δ}
    {run : Run σ δ (Except SessionError α)} (hbefore : before s d)
    (houtcome : Outcome notify happens (r s) d run) : after run.state run.link := by
  have hrun := h s d run hbefore houtcome
  rcases hresult : run.result with _ | e | a <;> simpa only [hresult] using hrun

/-- What goes on from the state knows it. -/
theorem triple_get_bind {f : σ → Routine σ α}
    (h : ∀ known, Triple notify happens (fun s d => s = known ∧ before s d) (f known) ok broken) :
    Triple notify happens before (get >>= f) ok broken := by
  have hget :
      Triple notify happens before get (fun known s d => s = known ∧ before s d) broken := by
    rintro s d run hbefore ⟨⟩
    exact ⟨rfl, hbefore⟩
  exact triple_bind hget h

theorem triple_get {f : σ → Routine σ α}
    (h : ∀ known, Triple notify happens before (f known) ok broken) :
    Triple notify happens before (get >>= f) ok broken :=
  triple_get_bind fun known => (h known).under fun _ _ h => h.2

end Triple

end BoardDebug.Routine

namespace BoardDebug

/-- A request that was acknowledged, and the link as it found it. -/
structure Contact (δ : Type) where
  link : δ
  request : Request

/-- A link with an account of the requests that it has acknowledged. -/
structure Ledger (δ : Type) where
  link : δ
  account : List (Contact δ)

namespace Ledger

variable {σ τ δ α : Type} [Link δ]

/-- An account after a request, which counts if it is acknowledged. -/
def enter (l : Ledger δ) (request : Request) : List (Contact δ) :=
  match (Link.serve l.link request).answer with
  | .ok _ => l.account ++ [⟨l.link, request⟩]
  | .error _ => l.account

instance : Link (Ledger δ) where
  capabilities l := Link.capabilities l.link
  serve l request :=
    ⟨(Link.serve l.link request).answer, ⟨(Link.serve l.link request).link, l.enter request⟩,
      (Link.serve l.link request).events⟩

theorem account_serve_of_ok {l : Ledger δ} {request : Request} {reply : request.Reply}
    (h : (Link.serve l.link request).answer = .ok reply) :
    (Link.serve l request).link.account = l.account ++ [⟨l.link, request⟩] := by
  change l.enter request = _
  rw [enter, h]

theorem account_serve_of_error {l : Ledger δ} {request : Request} {e : LinkError}
    (h : (Link.serve l.link request).answer = .error e) :
    (Link.serve l request).link.account = l.account := by
  change l.enter request = _
  rw [enter, h]

/-- What happens to a link leaves its account alone. -/
def Happens (happens : σ × δ → σ × δ → Prop) (p q : σ × Ledger δ) : Prop :=
  happens (p.1, p.2.link) (q.1, q.2.link) ∧ q.2.account = p.2.account

end Ledger

namespace Call

open Relation

variable {σ τ δ α : Type} {notify : Event → σ → σ} {happens : σ × δ → σ × δ → Prop}

theorem happens_ledger_all {p q : σ × δ} (h : ReflTransGen happens p q)
    (account : List (Contact δ)) :
    ReflTransGen (Ledger.Happens happens) (p.1, ⟨p.2, account⟩) (q.1, ⟨q.2, account⟩) := by
  induction h with
  | refl => exact .refl
  | tail _ hlast ih => exact ih.tail ⟨hlast, rfl⟩

theorem happens_of_ledger_all {p q : σ × Ledger δ} (h : ReflTransGen (Ledger.Happens happens) p q) :
    ReflTransGen happens (p.1, p.2.link) (q.1, q.2.link) ∧ q.2.account = p.2.account := by
  induction h with
  | refl => exact ⟨.refl, rfl⟩
  | tail _ hlast ih => exact ⟨ih.1.tail hlast.1, hlast.2.trans ih.2⟩

/-- A part of a state that stays in place does so while an account is kept. -/
theorem Lodges.ledger {get : τ → Option σ} {put : σ → τ → τ} {whole : τ} {notify' : Event → τ → τ}
    {happens' : τ × δ → τ × δ → Prop} (l : Lodges get put whole notify happens notify' happens') :
    Lodges get put whole notify (Ledger.Happens happens) notify' (Ledger.Happens happens') where
  get_put := l.get_put
  put_put := l.put_put
  notify_put := l.notify_put
  happens_put := by
    rintro s d t d' ⟨hhappens, haccount⟩
    obtain ⟨s', ht, hs'⟩ := l.happens_put _ _ _ _ hhappens
    exact ⟨s', ht, hs', haccount⟩

variable [Link δ]

/-- Whatever comes of a call, there is an account of it. -/
theorem Outcome.enter {call : Call σ α} {link : δ} {run : Run σ δ α}
    (h : Outcome notify happens call link run) (account : List (Contact δ)) :
    ∃ account', Outcome notify (Ledger.Happens happens) call ⟨link, account⟩
      ⟨run.result, run.state, ⟨run.link, account'⟩⟩ := by
  induction h generalizing account with
  | done => exact ⟨account, .done _ _ _⟩
  | @ask state request next link run _ ih =>
    obtain ⟨account', h⟩ := ih (Ledger.enter ⟨link, account⟩ request)
    exact ⟨account', .ask h⟩
  | givenUp hpassed => exact ⟨account, .givenUp (happens_ledger_all hpassed account)⟩
  | woken hpassed hready _ ih =>
    obtain ⟨account', h⟩ := ih account
    exact ⟨account', .woken (happens_ledger_all hpassed account) hready h⟩

/-- An account is kept of what comes of a call, and of nothing else. -/
theorem Outcome.of_ledger {call : Call σ α} {ledger : Ledger δ} {run : Run σ (Ledger δ) α}
    (h : Outcome notify (Ledger.Happens happens) call ledger run) :
    Outcome notify happens call ledger.link ⟨run.result, run.state, run.link.link⟩ := by
  induction h with
  | done => exact .done _ _ _
  | ask _ ih => exact .ask ih
  | givenUp hpassed => exact .givenUp (happens_of_ledger_all hpassed).1
  | woken hpassed hready _ ih => exact .woken (happens_of_ledger_all hpassed).1 hready ih

end Call

end BoardDebug
