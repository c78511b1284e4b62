import StagedChecks.Fault

/-!
# Observed runs

A run of the evaluator can be watched: it asks the context for scopes and sends messages. What was
observed before a fault stays observed.

## Main definitions

* `Event` — an observable step.
* `Run` — the steps of a run, in order, and its result or fault.
* `Run.heard`, `Run.logRecords` — what the listener and the log received.
-/

namespace StagedChecks

/-- The levels of the log. -/
inductive Level where
  | debug
  | info
  | warning
  | error
  | critical
  deriving DecidableEq, Repr

def Level.name : Level → String
  | .debug => "DEBUG"
  | .info => "INFO"
  | .warning => "WARNING"
  | .error => "ERROR"
  | .critical => "CRITICAL"

/-- Where messages go: to the listener that the caller passed, or to the log at some level. -/
inductive Channel where
  | listener
  | log (level : Level)
  deriving DecidableEq, Repr

inductive Event where
  | scopeRequested
  | message (channel : Channel) (text : String)
  deriving DecidableEq, Repr

/-- An entry of the log, at its level. -/
structure LogRecord where
  level : Level
  text : String
  deriving DecidableEq, Repr

/-- The observable steps of a run, in order, and its result or fault. -/
structure Run (α : Type) where
  events : List Event
  result : Except Fault α

namespace Run

variable {α β : Type}

/-- A run without observable steps. -/
def ofResult (result : Except Fault α) : Run α :=
  ⟨[], result⟩

def emit (event : Event) : Run Unit :=
  ⟨[event], .ok ()⟩

/-- A run that goes on with the result of another one, unless that ended with a fault. -/
def andThen (r : Run α) (next : α → Run β) : Run β :=
  match r.result with
  | .ok a => ⟨r.events ++ (next a).events, (next a).result⟩
  | .error fault => ⟨r.events, .error fault⟩

instance : Monad Run where
  pure a := ofResult (.ok a)
  bind := andThen

/-- The messages that the listener took. -/
def heard (r : Run α) : List String :=
  r.events.filterMap fun
    | .message .listener text => some text
    | _ => none

/-- What the log received. -/
def logRecords (r : Run α) : List LogRecord :=
  r.events.filterMap fun
    | .message (.log level) text => some { level, text }
    | _ => none

def scopeRequests (r : Run α) : Nat :=
  r.events.countP fun
    | .scopeRequested => true
    | .message _ _ => false

@[simp] theorem result_pure (a : α) : (pure a : Run α).result = .ok a := rfl

@[simp] theorem result_ofResult (result : Except Fault α) : (ofResult result).result = result := rfl

@[simp] theorem result_emit (event : Event) : (emit event).result = .ok () := rfl

theorem ofResult_ok_bind (a : α) (next : α → Run β) : ofResult (.ok a) >>= next = next a := rfl

@[simp] theorem result_bind (r : Run α) (next : α → Run β) :
    (r >>= next).result = r.result >>= fun a => (next a).result := by
  cases done : r.result <;> simp [bind, andThen, Except.bind, done]

theorem bind_def (r : Run α) (next : α → Run β) : r >>= next = r.andThen next := rfl

theorem andThen_ok {r : Run α} {a : α} (done : r.result = .ok a) (next : α → Run β) :
    r.andThen next = ⟨r.events ++ (next a).events, (next a).result⟩ := by
  simp [andThen, done]

theorem andThen_error {r : Run α} {fault : Fault} (failed : r.result = .error fault)
    (next : α → Run β) : r.andThen next = ⟨r.events, .error fault⟩ := by
  simp [andThen, failed]

end Run

end StagedChecks
