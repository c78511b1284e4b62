import StagedChecks.Evaluation.Run
import StagedChecks.Settings

/-!
# Sinks for messages

The caller may pass a listener. When there is none, or when it counts as false, messages go to the
log at the level for debugging, or nowhere if the settings say so. A listener may refuse a message
with a fault, which ends the run.

## Main definitions

* `Listener` — what a caller passes.
* `Sink` — a listener, the log, or nothing.
* `Sink.orDefault` — the sink that is used where one may have been passed.
* `Sink.send` — passes on a message.

## Main statements

* `Sink.orDefault_orDefault` — a default that has been filled in is kept.
-/

namespace StagedChecks

/-- What a caller passes to hear messages. -/
structure Listener where
  /-- Whether it counts as true. An empty collection that can be called does not. -/
  truthy : Bool := true
  /-- Takes a message, or refuses it. -/
  receive : String → Except Fault Unit := fun _ => .ok ()

/-- What is done with messages. -/
inductive Sink where
  | listener (l : Listener)
  | log (level : Level)
  | discard

namespace Sink

def isTruthy : Sink → Bool
  | .listener l => l.truthy
  | _ => true

/-- The sink when none is passed. -/
def default (settings : Settings) : Sink :=
  if settings.traceEnabled then .log .debug else .discard

/-- The sink that is used: the one passed unless it counts as false, else the default. -/
def orDefault (sink : Option Sink) (settings : Settings) : Sink :=
  match sink with
  | some sink => if sink.isTruthy then sink else default settings
  | none => default settings

/-- What a sink answers to a message. Only a listener can refuse it. -/
def answer (sink : Sink) (text : String) : Except Fault Unit :=
  match sink with
  | .listener l => l.receive text
  | _ => .ok ()

def send (sink : Sink) (text : String) : Run Unit :=
  match sink with
  | .listener l => do
    Run.ofResult (l.receive text)
    Run.emit (.message .listener text)
  | .log level => Run.emit (.message (.log level) text)
  | .discard => pure ()

@[simp] theorem isTruthy_default (settings : Settings) : (default settings).isTruthy = true := by
  unfold default
  split <;> rfl

@[simp] theorem isTruthy_orDefault (sink : Option Sink) (settings : Settings) :
    (orDefault sink settings).isTruthy = true := by
  unfold orDefault
  split
  · split <;> simp [*]
  · simp

/-- A default that has been filled in is kept, whatever the settings then. -/
@[simp] theorem orDefault_orDefault (sink : Option Sink) (settings others : Settings) :
    orDefault (some (orDefault sink settings)) others = orDefault sink settings := by
  rw [orDefault, if_pos (isTruthy_orDefault sink settings)]

@[simp] theorem result_send (sink : Sink) (text : String) :
    (sink.send text).result = sink.answer text := by
  cases sink with
  | listener l => cases taken : l.receive text <;> simp only [send, answer, taken] <;> rfl
  | log | discard => rfl

end Sink

end StagedChecks
