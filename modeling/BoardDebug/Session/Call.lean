import BoardDebug.Halt.Latch
import BoardDebug.Link
import BoardDebug.Program

namespace BoardDebug

/-- Where a session stands. -/
inductive Phase where
  /-- There is no session. -/
  | idle
  /-- The program is made. -/
  | starting
  /-- The image is written to the device. -/
  | flashing
  /-- The device runs. -/
  | armed
  /-- The device is halted. -/
  | paused
  /-- The device is being set going again. -/
  | resuming
  /-- The session failed. -/
  | terminated
deriving DecidableEq, Repr

def Phase.describe : Phase → String
  | idle => "Idle"
  | starting => "Starting"
  | flashing => "Flashing"
  | armed => "Armed"
  | paused => "Paused"
  | resuming => "Resuming"
  | terminated => "Terminated"

inductive SessionError where
  | compile (error : CompileError)
  | link (error : LinkError)
  | noBreakpoints
  | noEntryBreakpoint
  | noSession
  | wrongPhase (expected actual : Phase)
  | superseded
deriving DecidableEq

namespace SessionError

/-- The error and what caused it, outermost first. -/
def chain : SessionError → List String
  | compile error => "Compilation failed" :: error.chain
  | link error => "An error occured while talking to the device" :: error.chain
  | noBreakpoints => ["The compiler produced an empty breakpoint table"]
  | noEntryBreakpoint =>
    ["The breakpoint table has no entry breakpoint after the reserved first entry"]
  | noSession => ["There is no active debug session"]
  | wrongPhase expected actual =>
    ["Operation requires the session to be " ++ expected.describe ++ ", but it is " ++
      actual.describe]
  | superseded => ["The halt wait was superseded by a newer session or resume"]

def message (error : SessionError) : String :=
  ": ".intercalate error.chain

/-- Whether the device or the way to it is to blame. -/
def isTransport : SessionError → Bool
  | link _ => true
  | _ => false

/-- Whether the session goes on after the error. -/
def isHarmless : SessionError → Bool
  | noSession => true
  | wrongPhase _ _ => true
  | _ => false

end SessionError

/-- A call on a state `σ`, up to the next point at which it has to wait. The state at such a point
is what stays if the call is given up there; the call goes on from the state that it finds. -/
inductive Call (σ α : Type) where
  | done (state : σ) (result : α)
  /-- A request has been made. -/
  | ask (state : σ) (request : Request)
    (next : Except LinkError request.Reply → σ → Call σ α)
  /-- A halt is waited for; `ready` sees in the state whether it has come. -/
  | await (state : σ) (ready : σ → Option HaltOutcome) (next : HaltOutcome → σ → Call σ α)

namespace Call

variable {σ τ α β δ : Type}

def state : Call σ α → σ
  | done state _ => state
  | ask state _ _ => state
  | await state _ _ => state

/-- Goes on with `f` when a call is done. -/
def bind (f : α → σ → Call σ β) : Call σ α → Call σ β
  | done state result => f result state
  | ask state request next => ask state request fun answer state => (next answer state).bind f
  | await state ready next => await state ready fun outcome state => (next outcome state).bind f

/-- A call on a part of a state as a call on the whole. If the part is missing when the call goes
on, the part as the call left it stands in. -/
def within (get : τ → Option σ) (put : σ → τ → τ) (whole : τ) : Call σ α → Call τ α
  | done state result => done (put state whole) result
  | ask state request next =>
    ask (put state whole) request fun answer whole =>
      (next answer ((get whole).getD state)).within get put whole
  | await state ready next =>
    await (put state whole) (fun whole => ready ((get whole).getD state)) fun outcome whole =>
      (next outcome ((get whole).getD state)).within get put whole

/-- What a call has come to on a link that answers at once. -/
structure Run (σ δ α : Type) where
  /-- There is `none` if the call waits for a halt that has not come. -/
  result : Option α
  state : σ
  link : δ

/-- Runs a call on a link that answers at once. `notify` tells the state what arrived. -/
def run [Link δ] (notify : Event → σ → σ) : Call σ α → δ → Run σ δ α
  | done state result, link => ⟨some result, state, link⟩
  | ask state request next, link =>
    let served := Link.serve link request
    (next served.answer (served.events.foldl (fun s e => notify e s) state)).run notify served.link
  | await state ready next, link =>
    match ready state with
    | some outcome => (next outcome state).run notify link
    | none => ⟨none, state, link⟩

end Call

/-- A call that may fail, from the state in which it is made. -/
def Routine (σ α : Type) := σ → Call σ (Except SessionError α)

namespace Routine

variable {σ : Type}

instance : Monad (Routine σ) where
  pure a := fun state => .done state (.ok a)
  bind first next := fun state =>
    (first state).bind fun
      | .ok a, state => next a state
      | .error error, state => .done state (.error error)

instance : MonadStateOf σ (Routine σ) where
  get := fun state => .done state (.ok state)
  set state := fun _ => .done state (.ok ())
  modifyGet f := fun state => .done (f state).2 (.ok (f state).1)

def fail {α : Type} (error : SessionError) : Routine σ α := fun state =>
  .done state (.error error)

/-- Makes a request; its failure is the failure of the call. -/
def ask (request : Request) : Routine σ request.Reply := fun state =>
  .ask state request fun answer state =>
    match answer with
    | .ok reply => .done state (.ok reply)
    | .error error => .done state (.error (.link error))

def await (ready : σ → Option HaltOutcome) : Routine σ HaltOutcome := fun state =>
  .await state ready fun outcome state => .done state (.ok outcome)

end Routine

end BoardDebug
