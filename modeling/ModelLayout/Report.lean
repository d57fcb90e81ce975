import ModelLayout.Report.Json
import ModelLayout.Report.Text

/-!
# Writing a report

* `render` — a report in the chosen format.
-/

namespace ModelLayout

/-- A report in the chosen format. -/
def render : ReportFormat → List FileReport → String
  | .text => renderText
  | .json => renderJson

end ModelLayout
