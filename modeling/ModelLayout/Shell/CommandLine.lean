import ModelLayout.CommandLine
import ModelLayout.Shell.Arguments
import ModelLayout.Shell.SettingsFile

/-!
# A run from the words of a command line

* `RunOutcome.ofArgumentError` — what happens when the arguments ask for no check.
* `Machine.run` — a run with the given words.
-/

namespace ModelLayout

/-- The version of the program. -/
def programVersion : String := "0.1.0"

/-- What is written when help is asked for. -/
def usage : String :=
  "Usage: " ++ programName ++
    " [--config <CONFIG>] [--format text|json] [--log-level <LOG_LEVEL>] [PATHS]...\n"

/-- What happens when no check takes place because of the arguments.  The program says nothing
of its own about arguments that it does not understand. -/
def RunOutcome.ofArgumentError : ArgumentError → RunOutcome
  | .versionRequested => { exitCode := 0, output := programName ++ " " ++ programVersion ++ "\n" }
  | .helpRequested => { exitCode := 0, output := usage }
  | _ => { exitCode := 2 }

/-- A run with the given words as arguments.  Settings are written in TOML. -/
def Machine.run (m : Machine) (grammar : Ruby.Grammar) (args : List String) : RunOutcome :=
  match Arguments.parse args with
  | .error e => .ofArgumentError e
  | .ok args => m.check Settings.ofToml grammar args

end ModelLayout
