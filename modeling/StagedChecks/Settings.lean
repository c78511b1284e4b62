/-!
# Settings of the evaluator

## Main definitions

* `Settings` — whether messages are logged and whether verdicts keep a snapshot.

## Main statements

* `Settings.traceEnabled_getD`, `Settings.snapshotContext_getD` — settings that are not given.
-/

namespace StagedChecks

/-- Both settings are on unless said otherwise. -/
structure Settings where
  /-- Whether messages go to the log when no listener is passed. -/
  traceEnabled : Bool := true
  /-- Whether the report of a verdict keeps the values that were visible. -/
  snapshotContext : Bool := true
  deriving DecidableEq, Repr, Inhabited

namespace Settings

theorem traceEnabled_getD (settings : Option Settings) :
    (settings.getD {}).traceEnabled = settings.all (·.traceEnabled) := by
  cases settings <;> rfl

theorem snapshotContext_getD (settings : Option Settings) :
    (settings.getD {}).snapshotContext = settings.all (·.snapshotContext) := by
  cases settings <;> rfl

end Settings

end StagedChecks
