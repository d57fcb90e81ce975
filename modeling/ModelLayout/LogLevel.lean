/-!
# Levels of logging

* `LogLevel`, `LogLevel.parse` — the levels, and the one that a text names.

## References

The log levels of `SPEC_FULL.md`, section 16.
-/

namespace ModelLayout

/-- How much is logged. -/
inductive LogLevel
  | off
  | error
  | warn
  | info
  | debug
  | trace
  deriving DecidableEq, Repr, Inhabited

namespace LogLevel

/-- All levels, from nothing to everything. -/
def all : List LogLevel :=
  [off, error, warn, info, debug, trace]

/-- The name of a level. -/
def name : LogLevel → String
  | off => "OFF"
  | error => "ERROR"
  | warn => "WARN"
  | info => "INFO"
  | debug => "DEBUG"
  | trace => "TRACE"

/-- The level that a text names, in upper or lower case of the Latin letters.  A text that
names none means `warn`. -/
def parse (s : String) : LogLevel :=
  let upper := s.toList.map Char.toUpper
  (all.find? (·.name.toList == upper)).getD warn

end LogLevel

end ModelLayout
