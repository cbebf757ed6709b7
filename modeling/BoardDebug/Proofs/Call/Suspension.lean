import BoardDebug.Proofs.Call.Outcome

namespace BoardDebug

open Relation

/-- What goes on around a call whose requests take time. -/
structure Surroundings (σ δ : Type) where
  /-- A request may be answered so, with the state and the link afterwards. -/
  answers (request : Request) : σ × δ → Except LinkError request.Reply → σ × δ → Prop
  /-- What may happen by itself, also while a call is suspended. -/
  happens : σ × δ → σ × δ → Prop

namespace Surroundings

variable {σ δ : Type}

/-- The surroundings of a call on a link: the link answers, and the state is told what arrived. -/
def ofLink [Link δ] (notify : Event → σ → σ) (happens : σ × δ → σ × δ → Prop) :
    Surroundings σ δ where
  answers request w answer w' :=
    answer = (Link.serve w.2 request).answer ∧
      w' = ((Link.serve w.2 request).events.foldl (fun s e => notify e s) w.1,
        (Link.serve w.2 request).link)
  happens

variable (around : Surroundings σ δ)

def Passes : σ × δ → σ × δ → Prop :=
  ReflTransGen around.happens

/-- A request was made, and its answer is there. The answer takes its time in both directions. -/
def Answered (request : Request) (w : σ × δ) (answer : Except LinkError request.Reply)
    (w' : σ × δ) : Prop :=
  ∃ asked told, around.Passes w asked ∧ around.answers request asked answer told ∧
    around.Passes told w'

/-- Whether nothing that happens by itself makes a difference to `holds`. -/
def Spares (holds : σ × δ → Prop) : Prop :=
  ∀ w w', around.happens w w' → holds w → holds w'

variable {around}

theorem Spares.passes {holds : σ × δ → Prop} (h : around.Spares holds) {w w' : σ × δ}
    (hpasses : around.Passes w w') (hw : holds w) : holds w' := by
  induction hpasses with
  | refl => exact hw
  | tail _ hlast ih => exact h _ _ hlast ih

theorem Spares.and {first second : σ × δ → Prop} (h : around.Spares first)
    (h' : around.Spares second) : around.Spares fun w => first w ∧ second w :=
  fun w w' hhappens hw => ⟨h w w' hhappens hw.1, h' w w' hhappens hw.2⟩

end Surroundings

namespace Call

variable {σ τ δ α β : Type}

/-- How a call comes to a stop. -/
inductive Stop (α : Type) where
  | finished (result : α)
  /-- It was dropped, during a request or while it waited for a halt. -/
  | dropped (during : Option Request)

def Stop.result? : Stop α → Option α
  | finished result => some result
  | dropped _ => none

/-- How a call stops that has the result, or has none since it waits for a halt. -/
def Stop.ofResult : Option α → Stop α
  | some result => finished result
  | none => dropped none

/-- How a call may stop, and what it leaves behind. Wherever it is suspended it can be dropped. -/
inductive Stops (around : Surroundings σ δ) : Call σ α → δ → Stop α → σ × δ → Prop where
  | done (state : σ) (result : α) (link : δ) :
      Stops around (.done state result) link (.finished result) (state, link)
  | unanswered {state : σ} {request : Request}
      {next : Except LinkError request.Reply → σ → Call σ α} {link : δ} {w : σ × δ} :
      around.Passes (state, link) w →
      Stops around (.ask state request next) link (.dropped (some request)) w
  | unheard {state : σ} {request : Request} {next : Except LinkError request.Reply → σ → Call σ α}
      {link : δ} {answer : Except LinkError request.Reply} {w : σ × δ} :
      around.Answered request (state, link) answer w →
      Stops around (.ask state request next) link (.dropped (some request)) w
  | answered {state : σ} {request : Request} {next : Except LinkError request.Reply → σ → Call σ α}
      {link : δ} {answer : Except LinkError request.Reply} {w w' : σ × δ} {stop : Stop α} :
      around.Answered request (state, link) answer w →
      Stops around (next answer w.1) w.2 stop w' →
      Stops around (.ask state request next) link stop w'
  | unwoken {state : σ} {ready : σ → Option HaltOutcome} {next : HaltOutcome → σ → Call σ α}
      {link : δ} {w : σ × δ} :
      around.Passes (state, link) w →
      Stops around (.await state ready next) link (.dropped none) w
  | woken {state : σ} {ready : σ → Option HaltOutcome} {next : HaltOutcome → σ → Call σ α}
      {link : δ} {outcome : HaltOutcome} {w w' : σ × δ} {stop : Stop α} :
      around.Passes (state, link) w →
      ready w.1 = some outcome →
      Stops around (next outcome w.1) w.2 stop w' →
      Stops around (.await state ready next) link stop w'

/-- A call that is run on a link that answers at once stops so, if nothing happens around it. -/
theorem stops_run [Link δ] {notify : Event → σ → σ} {happens : σ × δ → σ × δ → Prop}
    (call : Call σ α) (link : δ) :
    Stops (.ofLink notify happens) call link (.ofResult (call.run notify link).result)
      ((call.run notify link).state, (call.run notify link).link) := by
  induction call generalizing link with
  | done state result => exact .done _ _ _
  | ask state request next ih =>
    exact .answered ⟨_, _, .refl, ⟨rfl, rfl⟩, .refl⟩ (ih _ _ _)
  | await state ready next ih =>
    simp only [run]
    cases h : ready state with
    | none => exact .unwoken .refl
    | some outcome => exact .woken .refl h (ih _ _ _)

/-- A call that never waits cannot be dropped while it does. -/
theorem Stops.ne_of_isDirect {around : Surroundings σ δ} {call : Call σ α} {link : δ}
    {stop : Stop α} {w : σ × δ} (h : Stops around call link stop w) (hc : call.IsDirect) :
    stop ≠ .dropped none := by
  induction h with
  | done | unanswered | unheard => nofun
  | answered _ _ ih => exact ih (hc _ _)
  | unwoken | woken => exact hc.elim

section Only

variable {allowed : Request → Prop}

/-- Whether a call makes allowed requests only, whatever they are answered and whatever happens
meanwhile. -/
def Only (allowed : Request → Prop) : Call σ α → Prop
  | done _ _ => True
  | ask _ request next => allowed request ∧ ∀ answer state, (next answer state).Only allowed
  | await _ _ next => ∀ outcome state, (next outcome state).Only allowed

/-- A call that is dropped during a request has made it. -/
theorem Only.of_stops {around : Surroundings σ δ} {call : Call σ α} {link : δ} {request : Request}
    {w : σ × δ} (h : call.Only allowed)
    (hstops : Stops around call link (.dropped (some request)) w) : allowed request := by
  generalize hstop : Stop.dropped (some request) = stop at hstops
  induction hstops with
  | done | unwoken => cases hstop
  | unanswered | unheard =>
    cases hstop
    exact h.1
  | answered _ _ ih => exact ih (h.2 _ _) hstop
  | woken _ _ _ ih => exact ih (h _ _) hstop

theorem Only.bind {call : Call σ α} {f : α → σ → Call σ β} (h : call.Only allowed)
    (hf : ∀ a s, (f a s).Only allowed) : (call.bind f).Only allowed := by
  induction call with
  | done state result => exact hf _ _
  | ask state request next ih => exact ⟨h.1, fun _ _ => ih _ _ (h.2 _ _)⟩
  | await state ready next ih => exact fun _ _ => ih _ _ (h _ _)

theorem Only.within {get : τ → Option σ} {put : σ → τ → τ} {call : Call σ α}
    (h : call.Only allowed) (whole : τ) : (call.within get put whole).Only allowed := by
  induction call generalizing whole with
  | done state result => trivial
  | ask state request next ih => exact ⟨h.1, fun _ _ => ih _ _ (h.2 _ _) _⟩
  | await state ready next ih => exact fun _ _ => ih _ _ (h _ _) _

end Only

variable (around : Surroundings σ δ) (held : Option Request → σ × δ → Prop)

/-- Whatever comes of a call: `held` holds wherever it is suspended, and `ok` of its result. -/
def Keeps (ok : α → σ × δ → Prop) : Call σ α → δ → Prop
  | done state result, link => ok result (state, link)
  | ask state request next, link =>
    (∀ w, around.Passes (state, link) w → held (some request) w) ∧
      ∀ answer w, around.Answered request (state, link) answer w →
        held (some request) w ∧ (next answer w.1).Keeps ok w.2
  | await state ready next, link =>
    ∀ w, around.Passes (state, link) w → held none w ∧
      ∀ outcome, ready w.1 = some outcome → (next outcome w.1).Keeps ok w.2

variable {around held}

/-- What holds once a call has stopped. -/
def Stop.Leaves (held : Option Request → σ × δ → Prop) (ok : α → σ × δ → Prop) :
    Stop α → σ × δ → Prop
  | finished result => ok result
  | dropped during => held during

theorem Keeps.of_stops {ok : α → σ × δ → Prop} {call : Call σ α} {link : δ} {stop : Stop α}
    {w : σ × δ} (h : call.Keeps around held ok link) (hstops : Stops around call link stop w) :
    stop.Leaves held ok w := by
  induction hstops with
  | done => exact h
  | unanswered hpasses => exact h.1 _ hpasses
  | unheard hanswered => exact (h.2 _ _ hanswered).1
  | answered hanswered _ ih => exact ih (h.2 _ _ hanswered).2
  | unwoken hpasses => exact (h _ hpasses).1
  | woken hpasses hready _ ih => exact ih ((h _ hpasses).2 _ hready)

theorem Keeps.mono {ok ok' : α → σ × δ → Prop} {held' : Option Request → σ × δ → Prop}
    {call : Call σ α} {link : δ} (h : call.Keeps around held ok link)
    (hheld : ∀ during w, held during w → held' during w) (hok : ∀ a w, ok a w → ok' a w) :
    call.Keeps around held' ok' link := by
  induction call generalizing link with
  | done state result => exact hok _ _ h
  | ask state request next ih =>
    refine ⟨fun w hpasses => hheld _ _ (h.1 w hpasses), fun answer w hanswered => ?_⟩
    obtain ⟨hw, hnext⟩ := h.2 answer w hanswered
    exact ⟨hheld _ _ hw, ih _ _ hnext⟩
  | await state ready next ih =>
    intro w hpasses
    obtain ⟨hw, hnext⟩ := h w hpasses
    exact ⟨hheld _ _ hw, fun outcome hready => ih _ _ (hnext outcome hready)⟩

/-- Whatever comes of a call, a link stays as it is in some respect if all that goes on around the
call leaves it so. -/
theorem keeps_link (holds : δ → Prop)
    (hanswers : ∀ {request w answer w'}, holds w.2 → around.answers request w answer w' → holds w'.2)
    (hhappens : ∀ {w w'}, holds w.2 → around.happens w w' → holds w'.2)
    (call : Call σ α) (link : δ) (h : holds link) :
    call.Keeps around (fun _ w => holds w.2) (fun _ w => holds w.2) link := by
  have hpasses : ∀ {w w'}, around.Passes w w' → holds w.2 → holds w'.2 := fun h hw =>
    Surroundings.Spares.passes (fun _ _ hstep hholds => hhappens hholds hstep) h hw
  induction call generalizing link with
  | done state result => exact h
  | ask state request next ih =>
    refine ⟨fun w hasked => hpasses hasked h, fun answer w hanswered => ?_⟩
    obtain ⟨asked, told, hasked, htold, hpassed⟩ := hanswered
    have hw := hpasses hpassed (hanswers (hpasses hasked h) htold)
    exact ⟨hw, ih _ _ _ hw⟩
  | await state ready next ih =>
    intro w hwaited
    have hw := hpasses hwaited h
    exact ⟨hw, fun _ _ => ih _ _ _ hw⟩

theorem Keeps.bind {ok : β → σ × δ → Prop} {call : Call σ α} {f : α → σ → Call σ β} {link : δ}
    (h : call.Keeps around held (fun a w => (f a w.1).Keeps around held ok w.2) link) :
    (call.bind f).Keeps around held ok link := by
  induction call generalizing link with
  | done state result => exact h
  | ask state request next ih =>
    refine ⟨h.1, fun answer w hanswered => ?_⟩
    obtain ⟨hw, hnext⟩ := h.2 answer w hanswered
    exact ⟨hw, ih _ _ hnext⟩
  | await state ready next ih =>
    intro w hpasses
    obtain ⟨hw, hnext⟩ := h w hpasses
    exact ⟨hw, fun outcome hready => ih _ _ (hnext outcome hready)⟩

/-- A part of a state that stays in place: what goes on around the whole goes on around it. -/
structure Houses (get : τ → Option σ) (put : σ → τ → τ) (whole : τ) (around : Surroundings σ δ)
    (around' : Surroundings τ δ) : Prop where
  get_put : ∀ s, get (put s whole) = some s
  put_put : ∀ s s', put s (put s' whole) = put s whole
  answers : ∀ {request s d answer w}, around'.answers request (put s whole, d) answer w →
    ∃ s' d', w = (put s' whole, d') ∧ around.answers request (s, d) answer (s', d')
  happens : ∀ {s d w}, around'.happens (put s whole, d) w →
    ∃ s' d', w = (put s' whole, d') ∧ around.happens (s, d) (s', d')

/-- A part that stays in place on a link that answers at once does so on one that takes its time. -/
theorem Lodges.houses [Link δ] {get : τ → Option σ} {put : σ → τ → τ} {whole : τ}
    {notify : Event → σ → σ} {happens : σ × δ → σ × δ → Prop} {notify' : Event → τ → τ}
    {happens' : τ × δ → τ × δ → Prop}
    (l : Lodges get put whole notify happens notify' happens') :
    Houses get put whole (.ofLink notify happens) (.ofLink notify' happens') where
  get_put := l.get_put
  put_put := l.put_put
  answers := by
    rintro request s d answer w ⟨rfl, rfl⟩
    exact ⟨_, _, by rw [l.foldl_notify], rfl, rfl⟩
  happens := by
    rintro s d ⟨t, d'⟩ hhappens
    obtain ⟨s', rfl, hs'⟩ := l.happens_put s d t d' hhappens
    exact ⟨s', d', rfl, hs'⟩

namespace Houses

variable {get : τ → Option σ} {put : σ → τ → τ} {whole : τ} {around' : Surroundings τ δ}
  (hh : Houses get put whole around around')

include hh

theorem passes {s : σ} {d : δ} {w : τ × δ} (h : around'.Passes (put s whole, d) w) :
    ∃ s' d', w = (put s' whole, d') ∧ around.Passes (s, d) (s', d') := by
  induction h with
  | refl => exact ⟨s, d, rfl, .refl⟩
  | tail _ hlast ih =>
    obtain ⟨s₁, d₁, rfl, h₁⟩ := ih
    obtain ⟨s₂, d₂, rfl, h₂⟩ := hh.happens hlast
    exact ⟨s₂, d₂, rfl, h₁.tail h₂⟩

theorem answered {request : Request} {s : σ} {d : δ} {answer : Except LinkError request.Reply}
    {w : τ × δ} (h : around'.Answered request (put s whole, d) answer w) :
    ∃ s' d', w = (put s' whole, d') ∧ around.Answered request (s, d) answer (s', d') := by
  obtain ⟨asked, told, hasked, hanswers, htold⟩ := h
  obtain ⟨s₁, d₁, rfl, h₁⟩ := hh.passes hasked
  obtain ⟨s₂, d₂, rfl, h₂⟩ := hh.answers hanswers
  obtain ⟨s₃, d₃, rfl, h₃⟩ := hh.passes htold
  exact ⟨s₃, d₃, rfl, _, _, h₁, h₂, h₃⟩

theorem within_put (call : Call σ α) (s : σ) :
    call.within get put (put s whole) = call.within get put whole := by
  cases call <;> simp only [within, hh.put_put]

/-- What a call on the part keeps, it keeps as a call on the whole. -/
theorem keeps_within {held : Option Request → τ × δ → Prop} {ok : α → τ × δ → Prop}
    {call : Call σ α} {link : δ}
    (h : call.Keeps around (fun during w => held during (put w.1 whole, w.2))
      (fun a w => ok a (put w.1 whole, w.2)) link) :
    (call.within get put whole).Keeps around' held ok link := by
  induction call generalizing link with
  | done state result => exact h
  | ask state request next ih =>
    refine ⟨fun w hpasses => ?_, fun answer w hanswered => ?_⟩
    · obtain ⟨s, d, rfl, hpart⟩ := hh.passes hpasses
      exact h.1 _ hpart
    · obtain ⟨s, d, rfl, hpart⟩ := hh.answered hanswered
      obtain ⟨hw, hnext⟩ := h.2 answer _ hpart
      refine ⟨hw, ?_⟩
      simp only [hh.get_put, Option.getD_some, hh.within_put]
      exact ih _ _ hnext
  | await state ready next ih =>
    intro w hpasses
    obtain ⟨s, d, rfl, hpart⟩ := hh.passes hpasses
    obtain ⟨hw, hnext⟩ := h _ hpart
    refine ⟨hw, fun outcome hready => ?_⟩
    simp only [hh.get_put, Option.getD_some, hh.within_put] at hready ⊢
    exact ih _ _ (hnext outcome hready)

end Houses

end Call

namespace Routine

open Call

variable {σ δ α β : Type}

theorem only_ask {allowed : Request → Prop} {request : Request} (h : allowed request) (s : σ) :
    (ask request s).Only allowed := by
  refine ⟨h, fun answer s => ?_⟩
  cases answer <;> trivial

/-- What goes on from the state is what goes on from the state in which the routine is called. -/
theorem only_get {allowed : Request → Prop} {f : σ → Routine σ α} {s : σ}
    (h : (f s s).Only allowed) : ((get >>= f) s).Only allowed :=
  h

theorem only_modify {allowed : Request → Prop} {f : σ → σ} {r : Routine σ α} {s : σ}
    (h : (r (f s)).Only allowed) : ((modify f >>= fun _ => r) s).Only allowed :=
  h

theorem only_bind {allowed : Request → Prop} {r : Routine σ α} {f : α → Routine σ β} {s : σ}
    (h : (r s).Only allowed) (hf : ∀ a s, (f a s).Only allowed) :
    ((r >>= f) s).Only allowed := by
  refine Only.bind h fun result s => ?_
  cases result with
  | ok a => exact hf a s
  | error e => trivial

/-- What holds at the end of a routine. -/
def Returns (ok : α → σ × δ → Prop) (bad : SessionError → σ × δ → Prop) :
    Except SessionError α → σ × δ → Prop
  | .ok a => ok a
  | .error e => bad e

variable (around : Surroundings σ δ) (held : Option Request → σ × δ → Prop)

/-- Whatever comes of a routine that is called where `before` holds: `held` holds wherever it is
suspended, and `ok` of its result or `bad` of its error. -/
def Keeps (before : σ × δ → Prop) (r : Routine σ α) (ok : α → σ × δ → Prop)
    (bad : SessionError → σ × δ → Prop) : Prop :=
  ∀ s d, before (s, d) → (r s).Keeps around held (Returns ok bad) d

variable {around held}
variable {before : σ × δ → Prop} {ok : α → σ × δ → Prop} {bad : SessionError → σ × δ → Prop}

theorem keeps_pure {a : α} (h : ∀ w, before w → ok a w) :
    Keeps around held before (pure a) ok bad :=
  fun _ _ hbefore => h _ hbefore

theorem keeps_fail {e : SessionError} (h : ∀ w, before w → bad e w) :
    Keeps around held before (fail e : Routine σ α) ok bad :=
  fun _ _ hbefore => h _ hbefore

theorem keeps_modify {f : σ → σ} {ok : Unit → σ × δ → Prop}
    (h : ∀ w, before w → ok () (f w.1, w.2)) : Keeps around held before (modify f) ok bad :=
  fun _ _ hbefore => h _ hbefore

theorem Keeps.mono {r : Routine σ α} {before' : σ × δ → Prop} {ok' : α → σ × δ → Prop}
    {bad' : SessionError → σ × δ → Prop} (h : Keeps around held before r ok bad)
    (hbefore : ∀ w, before' w → before w) (hok : ∀ a w, ok a w → ok' a w)
    (hbad : ∀ e w, bad e w → bad' e w) : Keeps around held before' r ok' bad' := by
  intro s d hs
  refine (h s d (hbefore _ hs)).mono (fun _ _ hw => hw) ?_
  rintro (e | a) w hw
  · exact hbad e w hw
  · exact hok a w hw

/-- What is known whatever the state is may be used. -/
theorem keeps_fact {fact : Prop} {r : Routine σ α} (hfact : ∀ w, before w → fact)
    (h : fact → Keeps around held before r ok bad) : Keeps around held before r ok bad :=
  fun s d hbefore => h (hfact _ hbefore) s d hbefore

theorem Keeps.under {r : Routine σ α} {before' : σ × δ → Prop}
    (h : Keeps around held before r ok bad) (hbefore : ∀ w, before' w → before w) :
    Keeps around held before' r ok bad :=
  h.mono hbefore (fun _ _ hw => hw) fun _ _ hw => hw

theorem keeps_bind {r : Routine σ β} {f : β → Routine σ α} {m : β → σ × δ → Prop}
    (hr : Keeps around held before r m bad) (hf : ∀ b, Keeps around held (m b) (f b) ok bad) :
    Keeps around held before (r >>= f) ok bad := by
  intro s d hbefore
  refine Call.Keeps.bind ((hr s d hbefore).mono (fun _ _ hw => hw) ?_)
  rintro (e | b) w hw
  · exact hw
  · exact hf b _ _ hw

/-- What goes on from the state knows it. -/
theorem keeps_get {f : σ → Routine σ α}
    (h : ∀ known, Keeps around held (fun w => w.1 = known ∧ before w) (f known) ok bad) :
    Keeps around held before (get >>= f) ok bad :=
  fun s d hbefore => h s s d ⟨rfl, hbefore⟩

/-- A request before which `before` holds, with what is known of its answer as soon as it has
one. -/
theorem keeps_ask {request : Request} {ok : request.Reply → σ × δ → Prop}
    (hbefore : around.Spares before) (hok : ∀ reply, around.Spares (ok reply))
    (hbad : ∀ e, around.Spares (bad e)) (hheld : ∀ w, before w → held (some request) w)
    (hheld_ok : ∀ reply w, ok reply w → held (some request) w)
    (hheld_bad : ∀ e w, bad e w → held (some request) w)
    (hanswers : ∀ w answer w', before w → around.answers request w answer w' →
      match answer with
      | .ok reply => ok reply w'
      | .error e => bad (.link e) w') :
    Keeps around held before (ask request) ok bad := by
  intro s d hs
  refine ⟨fun w hpasses => hheld w (hbefore.passes hpasses hs), ?_⟩
  rintro answer w ⟨asked, told, hasked, htold, hpassed⟩
  have htold := hanswers _ _ _ (hbefore.passes hasked hs) htold
  cases answer with
  | ok reply =>
    have hw := (hok reply).passes hpassed htold
    exact ⟨hheld_ok reply w hw, hw⟩
  | error e =>
    have hw := (hbad (.link e)).passes hpassed htold
    exact ⟨hheld_bad _ w hw, hw⟩

/-- A request that changes nothing of what is known. -/
theorem keeps_ask_same {request : Request} (hbefore : around.Spares before)
    (hheld : ∀ w, before w → held (some request) w)
    (hanswers : ∀ w answer w', before w → around.answers request w answer w' → before w') :
    Keeps around held before (ask request) (fun _ => before) fun _ => before := by
  refine keeps_ask hbefore (fun _ => hbefore) (fun _ => hbefore) hheld (fun _ => hheld)
    (fun _ => hheld) fun w answer w' hw h => ?_
  have hw' := hanswers w answer w' hw h
  cases answer with
  | ok reply => exact hw'
  | error e => exact hw'

end Routine

end BoardDebug
