import ModelLayout.Collection
import ModelLayout.Configuration
import ModelLayout.Report

/-!
# The command line program

* `RunOutcome` — what a run writes, and its exit code.
* `Machine.check` — a run with the given arguments.

The exit code is 0 if nothing was found, 1 if there are offenses, and 2 if something could not
be done.

## References

The exit codes and failures of `SPEC_FULL.md`, section 17.
-/

namespace ModelLayout

/-- The name of the program. -/
def programName : String := "model-structure"

/-- What a run writes, and the code it ends with. -/
structure RunOutcome where
  exitCode : Nat
  output : String := ""
  /-- Lines that report what could not be done. -/
  complaints : List String := []
  deriving DecidableEq, Repr, Inhabited

/-- What a run writes about what could not be done. -/
def RunOutcome.errorOutput (r : RunOutcome) : String :=
  String.join (r.complaints.map (· ++ "\n"))

/-- The line that is written for what could not be done. -/
def complaint (message : String) : String :=
  programName ++ ": " ++ message

/-- A run that could not do anything. -/
def RunOutcome.failed (message : String) : RunOutcome where
  exitCode := 2
  complaints := [complaint message]

/-- The exit code when the files have been gone through. -/
def exitCodeOf (reports : List FileReport) (failures : List FileError) : Nat :=
  if !failures.isEmpty then 2
  else if reports.any (!·.offenses.isEmpty) then 1
  else 0

/-- What is written, and the exit code, when the files have been gone through. -/
def RunOutcome.ofResults (format : ReportFormat) (results : List (Except FileError FileReport)) :
    RunOutcome where
  exitCode := exitCodeOf (reportsOf results) (failuresOf results)
  output := render format (reportsOf results)
  complaints := (failuresOf results).map (complaint ·.message)

namespace Machine

/-- A check with the given arguments. -/
def check (m : Machine) (parse : SettingsReader) (grammar : Ruby.Grammar) (args : Arguments) :
    RunOutcome :=
  match m.plan parse args with
  | .error e => .failed e.message
  | .ok plan =>
    match m.collect plan.paths with
    | .error e => .failed e.message
    | .ok files => .ofResults plan.format (m.checkFiles grammar plan.rules files)

end Machine

end ModelLayout
