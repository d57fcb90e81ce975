import ModelLayout.Arguments

/-!
# Reading a command line

Arguments are read from left to right.  An option `--config file` may also be written
`--config=file`; `--` makes paths of all that follows.  What has been read is kept back until
the next argument shows that it is complete, and only then are its values looked at: a word that
is not an argument at all is reported before the values in front of it.

## Main definitions

* `ArgumentError` — why arguments are refused, or what is asked for instead of a check.
* `Arguments.Held`, `Arguments.settle` — what has been read and not yet looked at.
* `Arguments.parse` — reading.
-/

namespace ModelLayout

/-- Why no check takes place. -/
inductive ArgumentError
  /-- A value that is missing or not allowed. -/
  | invalidValue
  /-- An option that does not exist. -/
  | unknownArgument
  /-- An option that was given before. -/
  | repeatedArgument
  /-- A value for an option that takes none. -/
  | unexpectedValue
  /-- Help is asked for. -/
  | helpRequested
  /-- The version is asked for. -/
  | versionRequested
  deriving DecidableEq, Repr, Inhabited

namespace Arguments

/-- The options that take a value. -/
inductive Setting
  | config
  | format
  | logLevel
  deriving DecidableEq, Repr, Inhabited

/-- The options. -/
inductive Flag
  | setting (s : Setting)
  | stdio
  | help
  | version
  deriving DecidableEq, Repr, Inhabited

/-- The option with the given long name. -/
def Flag.ofName? : String → Option Flag
  | "config" => some (.setting .config)
  | "format" => some (.setting .format)
  | "log-level" => some (.setting .logLevel)
  | "stdio" => some .stdio
  | "help" => some .help
  | "version" => some .version
  | _ => none

/-- The option with the given short name. -/
def Flag.ofLetter? : Char → Option Flag
  | 'h' => some .help
  | 'V' => some .version
  | _ => none

/-- An argument by its spelling. -/
inductive Word
  /-- `--` -/
  | escape
  /-- `--name` or `--name=value` -/
  | long (name : String) (value : Option String)
  /-- `-x`, perhaps with more letters. -/
  | short (letter : Char)
  /-- Anything else, `-` and the empty word too. -/
  | plain (text : String)
  deriving DecidableEq, Repr, Inhabited

/-- Read the spelling of an argument.  A value starts after the first equals sign. -/
def Word.ofString (s : String) : Word :=
  match s.toList with
  | ['-', '-'] => escape
  | '-' :: '-' :: rest =>
    match rest.dropWhile (· != '=') with
    | [] => long (String.ofList rest) none
    | _ :: value => long (String.ofList (rest.takeWhile (· != '='))) (some (String.ofList value))
  | '-' :: letter :: _ => short letter
  | _ => plain s

/-- What has been given so far. -/
structure Given where
  paths : List String := []
  config : Option String := none
  format : Option ReportFormat := none
  logLevel : Option String := none
  stdio : Bool := false
  deriving DecidableEq, Repr, Inhabited

/-- What has been read last and not yet looked at. -/
inductive Held
  | nothing
  /-- An option whose value is still to come. -/
  | awaiting (s : Setting)
  /-- An option with its value. -/
  | full (s : Setting) (value : String)
  /-- Paths in a row. -/
  | paths (values : List String)
  deriving DecidableEq, Repr, Inhabited

/-- Give an option its value: it must not have one yet, and the value has to suit. -/
def assign (g : Given) : Setting → String → Except ArgumentError Given
  | .config, value =>
    if g.config.isSome then .error .repeatedArgument
    else if value.isEmpty then .error .invalidValue
    else .ok { g with config := some value }
  | .format, value =>
    if g.format.isSome then .error .repeatedArgument
    else
      match ReportFormat.ofName? value with
      | none => .error .invalidValue
      | some f => .ok { g with format := some f }
  | .logLevel, value =>
    if g.logLevel.isSome then .error .repeatedArgument
    else .ok { g with logLevel := some value }

/-- Look at what was kept back. -/
def settle (g : Given) : Held → Except ArgumentError Given
  | .nothing => .ok g
  | .awaiting _ => .error .invalidValue
  | .full s value => assign g s value
  | .paths values =>
    if values.any String.isEmpty then .error .invalidValue
    else .ok { g with paths := g.paths ++ values }

/-- Keep back some more paths, looking at anything else that was kept back. -/
def holdPaths (g : Given) (values : List String) : Held → Except ArgumentError (Given × Held)
  | .paths before => .ok (g, .paths (before ++ values))
  | held => (settle g held).map (·, .paths values)

/-- Go on with an option. -/
def readFlag (g : Given) (held : Held) : Flag → Option String → Except ArgumentError (Given × Held)
  | .setting s, none => (settle g held).map (·, .awaiting s)
  | .setting s, some value => do
    let g ← settle g held
    let g ← assign g s value
    return (g, .nothing)
  | _, some _ => .error .unexpectedValue
  | .stdio, none => do
    let g ← settle g held
    if g.stdio then .error .repeatedArgument else return ({ g with stdio := true }, .nothing)
  | .help, none => do
    let _ ← settle g held
    .error .helpRequested
  | .version, none => do
    let _ ← settle g held
    .error .versionRequested

/-- Go on with a word that is not an option: the value of an option, or a path. -/
def readPlain (g : Given) (held : Held) (text : String) : Except ArgumentError (Given × Held) :=
  match held with
  | .awaiting s => .ok (g, .full s text)
  | held => holdPaths g [text] held

/-- Read the arguments that are left. -/
def readAll (g : Given) (held : Held) : List String → Except ArgumentError Given
  | [] => settle g held
  | arg :: rest =>
    match Word.ofString arg with
    | .escape =>
      if rest.isEmpty then settle g held
      else do
        let (g, held) ← holdPaths g rest held
        settle g held
    | .long name value =>
      match Flag.ofName? name with
      | none => .error .unknownArgument
      | some flag => do
        let (g, held) ← readFlag g held flag value
        readAll g held rest
    | .short letter =>
      match Flag.ofLetter? letter with
      | none => .error .unknownArgument
      | some flag => do
        let (g, held) ← readFlag g held flag none
        readAll g held rest
    | .plain text => do
      let (g, held) ← readPlain g held text
      readAll g held rest

/-- The arguments of a check, from the words of a command line. -/
def parse (args : List String) : Except ArgumentError Arguments := do
  let g ← readAll {} .nothing args
  return {
    paths := g.paths
    config := g.config
    format := g.format.getD .text
    logLevel := g.logLevel.getD "warn"
    stdio := g.stdio }

end Arguments

end ModelLayout
