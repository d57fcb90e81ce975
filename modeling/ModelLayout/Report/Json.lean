import ModelLayout.Json
import ModelLayout.Report.Basic

/-!
# Reports as JSON

A report is an array with one object for each record.

## References

The JSON format of `SPEC_FULL.md`, section 17.
-/

namespace ModelLayout

/-- A record as an object. -/
def Record.toJson (r : Record) : Json :=
  .object [("path", .string r.path), ("line", .number r.line), ("column", .number r.column),
    ("end_line", .number r.endLine), ("end_column", .number r.endColumn),
    ("kind", .string r.kind.name), ("message", .string r.message)]

/-- A report as JSON. -/
def renderJson (reports : List FileReport) : String :=
  (Json.array ((records reports).map Record.toJson)).pretty

end ModelLayout
