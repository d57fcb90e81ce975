import ModelLayout.Report.Basic

/-!
# The arguments of a check

* `Arguments` — what a check is told on the command line.

## References

The command line of `SPEC_FULL.md`, section 17.
-/

namespace ModelLayout

/-- The arguments of a check. -/
structure Arguments where
  /-- Files and directories to check. -/
  paths : List String := []
  /-- The settings file to use. -/
  config : Option String := none
  format : ReportFormat := .text
  logLevel : String := "warn"
  /-- Accepted for the sake of editors that pass it. -/
  stdio : Bool := false
  deriving DecidableEq, Repr, Inhabited

end ModelLayout
