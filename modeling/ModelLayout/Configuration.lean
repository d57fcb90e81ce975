import ModelLayout.Arguments
import ModelLayout.Machine
import ModelLayout.Settings

/-!
# Where the rules come from

The rules are those of one settings file: the one that is named by the arguments; else the
nearest one in the working directory and the directories above it; else the one of the user.
Without any of them the standard rules hold.  A file that has been chosen is never passed over
because there is something wrong with it.  What the text of a file says is for a reader to tell,
which is given.

## Main definitions

* `SettingsReader` — what finds the settings in a text.
* `Machine.projectFile?`, `Machine.userFile?`, `Machine.settingsFile` — the choice of a file.
* `Plan`, `Machine.plan` — all that a check needs to know.

## References

The discovery of settings in `SPEC_FULL.md`, section 14.
-/

namespace ModelLayout

/-- What finds the settings in the text of a file, or says in words why there are none. -/
abbrev SettingsReader := String → Except String Settings

/-- The name of the settings file of a project. -/
def projectFileName : String := ".model-structure.toml"

/-- The place of the settings file of the user, in their directory for settings. -/
def userFileNames : Place := ["model-structure", "config.toml"]

/-- A directory and those above it, the nearest first. -/
def ancestors (place : Place) : List Place :=
  (List.range (place.length + 1)).reverse.map place.take

/-- The path of the settings file of a project in the given directory. -/
def projectFileIn (dir : Place) : String :=
  Path.join (Path.absolute dir) projectFileName

/-- Why there are no rules. -/
inductive ConfigurationError
  /-- It is not known in which directory the program runs. -/
  | nowhere (cause : String)
  | unreadable (path cause : String)
  /-- The text of the file says nothing that could be understood. -/
  | malformed (path cause : String)
  | refused (path : String) (cause : SettingsError)
  deriving DecidableEq, Repr, Inhabited

/-- The text that reports why there are no rules. -/
def ConfigurationError.message : ConfigurationError → String
  | nowhere cause => "Could not determine working directory: " ++ cause
  | unreadable path cause => "Failed to read configuration file " ++ path ++ ": " ++ cause
  | malformed path cause => "Failed to parse configuration file " ++ path ++ ": " ++ cause
  | refused path cause => "Invalid configuration in " ++ path ++ ": " ++ cause.message

/-- All that a check needs to know. -/
structure Plan where
  paths : List String
  format : ReportFormat
  logLevel : String
  /-- The settings file that the rules come from. -/
  configFile : Option String
  rules : Rules
  deriving Inhabited

/-- What a check with the given arguments needs to know, once it has the rules.  Without any paths
the working directory is checked. -/
def Arguments.planWith (args : Arguments) (file : Option String) (rules : Rules) : Plan where
  paths := if args.paths.isEmpty then ["."] else args.paths
  format := args.format
  logLevel := args.logLevel
  configFile := file
  rules := rules

namespace Machine

/-- The nearest settings file in the directory `here` and the directories above it. -/
def projectFile? (m : Machine) (here : Place) : Option String :=
  ((ancestors here).map projectFileIn).find? m.isFile

/-- The settings file of the user. -/
def userFile? (m : Machine) : Option String :=
  (m.settingsDirectory.map (Path.below · userFileNames)).filter m.isFile

/-- The settings file to use, if any. -/
def settingsFile (m : Machine) (args : Arguments) : Except ConfigurationError (Option String) :=
  match args.config with
  | some path => .ok (some path)
  | none =>
    match m.workingDirectory with
    | .error cause => .error (.nowhere cause)
    | .ok here => .ok (m.projectFile? here <|> m.userFile?)

/-- The rules of the settings file under a path. -/
def rulesIn (m : Machine) (parse : SettingsReader) (path : String) :
    Except ConfigurationError Rules :=
  match m.readText path with
  | .error cause => .error (.unreadable path cause)
  | .ok text =>
    match parse text with
    | .error cause => .error (.malformed path cause)
    | .ok settings =>
      match settings.validate with
      | .error cause => .error (.refused path cause)
      | .ok v => .ok v.rules

/-- What a check with the given arguments needs to know. -/
def plan (m : Machine) (parse : SettingsReader) (args : Arguments) :
    Except ConfigurationError Plan :=
  match m.settingsFile args with
  | .error e => .error e
  | .ok none => .ok (args.planWith none Rules.standard)
  | .ok (some path) => (m.rulesIn parse path).map (args.planWith (some path))

end Machine

end ModelLayout
