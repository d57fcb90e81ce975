import ModelLayout.Review

/-!
# Reports

What is reported about a set of files: one record for each offense, file by file.

* `FileReport` — the offenses of a file.
* `Record`, `records` — an offense as it is reported; columns are counted from one.
* `ReportFormat` — how a report is written.

## References

The records of `SPEC_FULL.md`, section 17.
-/

namespace ModelLayout

/-- The offenses found in a file. -/
structure FileReport where
  path : String
  offenses : List Offense
  deriving DecidableEq, Repr, Inhabited

/-- How a report is written. -/
inductive ReportFormat
  | text
  | json
  deriving DecidableEq, Repr, Inhabited

/-- The format with the given name. -/
def ReportFormat.ofName? : String → Option ReportFormat
  | "text" => some text
  | "json" => some json
  | _ => none

/-- An offense as it is reported.  Lines and columns are counted from one. -/
structure Record where
  path : String
  line : Nat
  column : Nat
  endLine : Nat
  endColumn : Nat
  kind : OffenseKind
  message : String
  deriving DecidableEq, Repr, Inhabited

/-- The record of an offense in the file `path`. -/
def Offense.record (path : String) (f : Offense) : Record where
  path := path
  line := f.span.start.line
  column := f.span.start.column + 1
  endLine := f.span.stop.line
  endColumn := f.span.stop.column + 1
  kind := f.kind
  message := f.message

/-- The records of all offenses, file by file. -/
def records (reports : List FileReport) : List Record :=
  reports.flatMap fun r => r.offenses.map (Offense.record r.path)

end ModelLayout
