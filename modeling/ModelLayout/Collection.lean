import ModelLayout.Machine
import ModelLayout.Report.Basic

/-!
# The files to check

A path that is a file is checked whatever its name; a directory stands for all Ruby files below
it.  The files are put in the order of their paths, and of several spellings of one path the
first is kept.

## Main definitions

* `Machine.collect` — the files that a list of paths stands for.
* `Machine.checkFile`, `Machine.checkFiles` — the reports of files.

## References

The files that are walked and checked in `SPEC_FULL.md`, section 17.
-/

namespace ModelLayout

/-- A path that leads to nothing. -/
structure MissingPath where
  path : String
  deriving DecidableEq, Repr, Inhabited

/-- The text that reports a missing path. -/
def MissingPath.message (e : MissingPath) : String :=
  "No such file or directory: " ++ e.path

/-- A file that could not be checked. -/
inductive FileError
  | unreadable (path cause : String)
  | unparsed (path : String) (cause : Ruby.ParseError)
  deriving DecidableEq, Repr, Inhabited

/-- The text that reports a file that could not be checked. -/
def FileError.message : FileError → String
  | unreadable path cause => "Failed to read " ++ path ++ ": " ++ cause
  | unparsed path cause => "Failed to parse " ++ path ++ ": " ++ cause.message

/-- Of several spellings of one path that follow each other, the first. -/
def keepFirstSpelling : List String → List String
  | [] => []
  | p :: ps =>
    match keepFirstSpelling ps with
    | [] => [p]
    | q :: qs => if Path.same p q then p :: qs else p :: q :: qs

/-- The path of an entry, if it is a file. -/
def Walked.file? (e : Walked) : Option String :=
  if e.kind = .file then some e.path else none

namespace Machine

/-- The files that a walk through a directory comes by.  Entries that cannot be looked at are passed
over. -/
def filesBelow (m : Machine) (dir : String) : List String :=
  (m.walk dir).filterMap (·.bind Walked.file?)

/-- The Ruby files that a walk through a directory comes by. -/
def rubyFilesBelow (m : Machine) (dir : String) : List String :=
  (m.filesBelow dir).filter Path.isRuby

/-- The files that one path stands for. -/
def filesAt (m : Machine) (path : String) : Except MissingPath (List String) :=
  if m.isFile path then .ok [path]
  else if m.isDirectory path then .ok (m.rubyFilesBelow path)
  else .error ⟨path⟩

/-- The files that several paths stand for, one path after the other. -/
def filesAtAll (m : Machine) : List String → Except MissingPath (List String)
  | [] => .ok []
  | path :: paths =>
    match m.filesAt path with
    | .error e => .error e
    | .ok here => (m.filesAtAll paths).map (here ++ ·)

/-- The files that a list of paths stands for, in order and each spelling of a path once. -/
def collect (m : Machine) (paths : List String) : Except MissingPath (List String) :=
  (m.filesAtAll paths).map fun files => keepFirstSpelling (files.mergeSort Path.le)

/-- The report of a file. -/
def checkFile (m : Machine) (grammar : Ruby.Grammar) (rules : Rules) (path : String) :
    Except FileError FileReport :=
  match m.readText path with
  | .error cause => .error (.unreadable path cause)
  | .ok text =>
    match offensesIn grammar rules text with
    | .error cause => .error (.unparsed path cause)
    | .ok offenses => .ok ⟨path, offenses⟩

/-- The outcomes for several files. -/
def checkFiles (m : Machine) (grammar : Ruby.Grammar) (rules : Rules) (paths : List String) :
    List (Except FileError FileReport) :=
  paths.map (m.checkFile grammar rules)

end Machine

/-- The reports among several outcomes. -/
def reportsOf (results : List (Except FileError FileReport)) : List FileReport :=
  results.filterMap fun
    | .ok r => some r
    | .error _ => none

/-- The failures among several outcomes. -/
def failuresOf (results : List (Except FileError FileReport)) : List FileError :=
  results.filterMap fun
    | .ok _ => none
    | .error e => some e

end ModelLayout
