import ModelLayout.Path

/-!
# The machine that a check runs on

A check asks its machine five questions, and nothing else of the outside world plays a part in it.
The machine is described by its answers.  They need not come from a disk as one imagines it: a
file can be there and refuse to be read, and two paths can lead to one file in ways that their
spelling does not show.

## Main definitions

* `EntryKind`, `Walked` — what is under a path, and what a walk comes by.
* `Machine` — a machine.
* `Machine.readText` — the text of a file.

## References

The collaborators outside of the program in `SPEC_FULL.md`: settings files in section 14, files to
check in section 17.
-/

namespace ModelLayout

/-- What is under a path. -/
inductive EntryKind
  | file
  | directory
  /-- Anything else: a pipe, a socket, a device. -/
  | other
  deriving DecidableEq, Repr, Inhabited

/-- An entry that a walk through a directory comes by. -/
structure Walked where
  path : String
  kind : EntryKind
  deriving DecidableEq, Repr, Inhabited

/-- A machine, by its answers. -/
structure Machine where
  /-- What is under a path; nothing if the machine cannot tell. -/
  kind? : String → Option EntryKind
  /-- The bytes of the file under a path, or in words why they cannot be read. -/
  read : String → Except String ByteArray
  /-- What a walk through a directory comes by.  An entry that cannot be looked at is `none`. -/
  walk : String → List (Option Walked)
  /-- The directory that the program runs in, or in words why it is not known. -/
  workingDirectory : Except String Place
  /-- The directory in which the user keeps settings, if there is one. -/
  settingsDirectory : Option String

/-- What is said of bytes that are not UTF-8. -/
def notText : String := "stream did not contain valid UTF-8"

namespace Machine

/-- Whether there is a file under a path. -/
def isFile (m : Machine) (path : String) : Bool :=
  m.kind? path = some .file

/-- Whether there is a directory under a path. -/
def isDirectory (m : Machine) (path : String) : Bool :=
  m.kind? path = some .directory

/-- The text of the file under a path. -/
def readText (m : Machine) (path : String) : Except String String :=
  match m.read path with
  | .error cause => .error cause
  | .ok bytes =>
    match String.fromUTF8? bytes with
    | none => .error notText
    | some text => .ok text

end Machine

end ModelLayout
