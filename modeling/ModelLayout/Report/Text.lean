import ModelLayout.Report.Basic
import ModelLayout.Text.Lines

/-!
# Reports as text

Each record starts with a line `path:line:column: kind: message`.  If the message has more than
one line, the later ones follow, those that are not empty, indented by four spaces.  An empty
line and a summary end the report.

## References

The text format of `SPEC_FULL.md`, section 17.
-/

namespace ModelLayout

namespace Record

/-- The line that a record starts with. -/
def headLine (r : Record) : String :=
  r.path ++ ":" ++ Nat.repr r.line ++ ":" ++ Nat.repr r.column ++ ": " ++ r.kind.name ++ ": " ++
    (Text.lines r.message).headD ""

/-- The lines after it. -/
def moreLines (r : Record) : List String :=
  (((Text.lines r.message).drop 1).filter (!·.isEmpty)).map ("    " ++ ·)

/-- All lines of a record. -/
def textLines (r : Record) : List String :=
  r.headLine :: r.moreLines

end Record

/-- How many files were looked at, how many offenses there are and in how many files. -/
def summaryLine (reports : List FileReport) : String :=
  Nat.repr reports.length ++ " file(s) inspected, " ++
    Nat.repr (records reports).length ++ " offense(s) detected in " ++
    Nat.repr (reports.filter (!·.offenses.isEmpty)).length ++ " file(s)"

/-- The lines of a report. -/
def reportLines (reports : List FileReport) : List String :=
  (records reports).flatMap Record.textLines ++ ["", summaryLine reports]

/-- A report as text: each of its lines is ended by a line feed. -/
def renderText (reports : List FileReport) : String :=
  String.join ((reportLines reports).map (· ++ "\n"))

end ModelLayout
