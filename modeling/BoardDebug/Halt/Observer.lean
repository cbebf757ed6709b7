import BoardDebug.Halt.Latch

namespace BoardDebug

/-- How halts are to be observed. -/
inductive HaltStrategy where
  /-- By events if the link has them, else by asking. -/
  | auto
  | push
  | poll
deriving DecidableEq, Repr

namespace HaltStrategy

/-- The name in a configuration. -/
def key : HaltStrategy → String
  | auto => "auto"
  | push => "push"
  | poll => "poll"

def keys : List (String × HaltStrategy) :=
  [auto, push, poll].map fun strategy => (strategy.key, strategy)

def describe : HaltStrategy → String
  | auto => "Auto"
  | push => "Push"
  | poll => "Poll"

/-- Whether halts are observed by events, if the link can do what is asked. -/
def usesEvents (strategy : HaltStrategy) (has : Capabilities) : Except LinkError Bool :=
  match strategy with
  | auto =>
    if has.events then .ok true
    else if has.statusQuery then .ok false
    else .error (.unsupported "halt observation")
  | push => if has.events then .ok true else .error (.unsupported "event subscription")
  | poll => if has.statusQuery then .ok false else .error (.unsupported "halt status queries")

end HaltStrategy

/-- Where the task that asks for halts stands. Times are in milliseconds. -/
inductive PollStage where
  /-- It has not run yet. -/
  | fresh
  /-- It asks again at `due`. -/
  | asleep (due : Nat)
  /-- A question is answered at `answered`; the next one is `due` then. -/
  | asking (due answered : Nat)
  | ended
deriving DecidableEq

namespace PollStage

/-- How late a question may be without the later ones being put off. -/
def tolerance : Nat := 5

/-- The first question is due at once. Without an interval the task cannot run. -/
def begin (interval now : Nat) : PollStage :=
  if interval = 0 then ended else asleep now

/-- A tick at `now`: the device is asked only while somebody waits for it. -/
def tick (interval latency now due : Nat) (waiting : Bool) : PollStage :=
  let next := if due + tolerance < now then now + interval else due + interval
  if waiting then asking next (now + latency) else asleep next

/-- When the task has something to do, seen from `now`. -/
def wakesAt? (now : Nat) : PollStage → Option Nat
  | fresh => some now
  | asleep due => some (max now due)
  | asking _ answered => some (max now answered)
  | ended => none

end PollStage

/-- What feeds a latch. -/
inductive Observer where
  | push
  | poll (interval : Nat) (stage : PollStage)
deriving DecidableEq

/-- The observer for a link with these capabilities. -/
def Observer.install (has : Capabilities) (strategy : HaltStrategy) (interval : Nat) :
    Except LinkError Observer :=
  (strategy.usesEvents has).map fun events => if events then .push else .poll interval .fresh

end BoardDebug
