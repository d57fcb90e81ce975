import ModelLayout.Machine

/-!
# Files and directories

A disk holds files and directories, each at its place.  There are no links on it, every file can
be read, and every directory can be looked into.  What sets limits is the length of names and of
paths.

## Main definitions

* `Disk`, `Disk.Sound` — disks, and what makes files and directories a disk.
* `Disk.entry?` — what is at a place.
* `Disk.locate` — the place that a path leads to.
* `Disk.below` — the files below a directory.
* `Disk.machine` — a machine with the given disk.
-/

namespace ModelLayout

/-- How many bytes a name may have. -/
def maxNameBytes : Nat := 255

/-- How many bytes a path may have. -/
def maxPathBytes : Nat := 4095

/-- What makes files and directories a disk: files have names and are found under them, and
nothing is below a file. -/
structure Disk.Sound (files : List (Place × ByteArray)) (directories : List Place) : Prop where
  isName : ∀ f ∈ files, ∀ name ∈ f.1, IsName name
  fits : ∀ f ∈ files, ∀ name ∈ f.1, '\x00' ∉ name.toList ∧ name.utf8ByteSize ≤ maxNameBytes
  nonempty : ∀ f ∈ files, f.1 ≠ []
  distinct : (files.map (·.1)).Nodup
  no_file_below : ∀ f ∈ files, ∀ g ∈ files, f.1 <+: g.1 → f.1 = g.1
  no_directory_below : ∀ f ∈ files, ∀ place ∈ directories, ¬ f.1 <+: place

instance (files : List (Place × ByteArray)) (directories : List Place) :
    Decidable (Disk.Sound files directories) :=
  decidable_of_iff ((∀ f ∈ files, ∀ name ∈ f.1, IsName name) ∧
      (∀ f ∈ files, ∀ name ∈ f.1, '\x00' ∉ name.toList ∧ name.utf8ByteSize ≤ maxNameBytes) ∧
      (∀ f ∈ files, f.1 ≠ []) ∧ (files.map (·.1)).Nodup ∧
      (∀ f ∈ files, ∀ g ∈ files, f.1 <+: g.1 → f.1 = g.1) ∧
      ∀ f ∈ files, ∀ place ∈ directories, ¬ f.1 <+: place)
    ⟨fun ⟨h₁, h₂, h₃, h₄, h₅, h₆⟩ => ⟨h₁, h₂, h₃, h₄, h₅, h₆⟩,
      fun ⟨h₁, h₂, h₃, h₄, h₅, h₆⟩ => ⟨h₁, h₂, h₃, h₄, h₅, h₆⟩⟩

/-- Files with their bytes, and directories.  The directories above a file or directory are
there without being listed. -/
structure Disk where
  files : List (Place × ByteArray)
  directories : List Place
  sound : Disk.Sound files directories := by decide

/-- What can be at a place. -/
inductive DiskEntry
  | file (bytes : ByteArray)
  | directory
  deriving Inhabited

/-- What a machine makes of what is at a place. -/
def DiskEntry.kind : DiskEntry → EntryKind
  | file _ => .file
  | directory => .directory

/-- Why a path leads to no file. -/
inductive DiskError
  | notFound
  /-- The path goes on below a file. -/
  | notDirectory
  | isDirectory
  /-- A name or the whole path has too many bytes. -/
  | tooLong
  /-- No path has a character of code zero in it. -/
  | notPath
  deriving DecidableEq, Repr, Inhabited

/-- The reason in words. -/
def DiskError.message : DiskError → String
  | notFound => "No such file or directory (os error 2)"
  | notDirectory => "Not a directory (os error 20)"
  | isDirectory => "Is a directory (os error 21)"
  | tooLong => "File name too long (os error 36)"
  | notPath => "file name contained an unexpected NUL byte"

namespace Disk

instance : Inhabited Disk := ⟨{ files := [], directories := [] }⟩

/-- The disk with the given files and directories, if they make one. -/
def ofEntries? (files : List (Place × ByteArray)) (directories : List Place) : Option Disk :=
  if h : Sound files directories then some ⟨files, directories, h⟩ else none

/-- Whether a place is a directory: the root, a listed one, or one with something below it. -/
def isDirectoryAt (d : Disk) (place : Place) : Bool :=
  place.isEmpty || d.directories.any place.isPrefixOf ||
    d.files.any fun f => place.isPrefixOf f.1

/-- What is at a place. -/
def entry? (d : Disk) (place : Place) : Option DiskEntry :=
  match d.files.lookup place with
  | some bytes => some (.file bytes)
  | none => if d.isDirectoryAt place then some .directory else none

/-- The place that the pieces of a path lead to from `here`.  Each step has to start in a
directory; above the root there is nothing but the root. -/
def follow (d : Disk) (here : Place) : List String → Except DiskError Place
  | [] => .ok here
  | piece :: rest =>
    match d.entry? here with
    | none => .error .notFound
    | some (.file _) => .error .notDirectory
    | some .directory =>
      if piece = "" ∨ piece = "." then follow d here rest
      else if piece = ".." then follow d here.dropLast rest
      else if maxNameBytes < piece.utf8ByteSize then .error .tooLong
      else follow d (here ++ [piece]) rest

/-- The place that a path leads to for a program that runs in the directory `here`.  The empty
path leads nowhere. -/
def locate (d : Disk) (here : Place) (path : String) : Except DiskError Place :=
  if path.toList.contains '\x00' then .error .notPath
  else if maxPathBytes < path.utf8ByteSize then .error .tooLong
  else if path = "" then .error .notFound
  else d.follow (Path.origin here path) (Path.parts path)

/-- What a path leads to. -/
def lookup (d : Disk) (here : Place) (path : String) : Except DiskError (Place × DiskEntry) := do
  let place ← d.locate here path
  match d.entry? place with
  | none => .error .notFound
  | some entry => return (place, entry)

/-- The bytes of the file that a path leads to. -/
def read (d : Disk) (here : Place) (path : String) : Except DiskError ByteArray := do
  match ← d.lookup here path with
  | (_, .directory) => .error .isDirectory
  | (_, .file bytes) => return bytes

/-- The files below a directory: for each the names that lead there from the directory. -/
def below (d : Disk) (place : Place) : List Place :=
  (d.files.filter fun f => place.isPrefixOf f.1 && place != f.1).map fun f =>
    f.1.drop place.length

/-- Whether a walk through the directory `dir` goes on below the directory that the names lead to:
its path must not be too long. -/
def canEnter (dir : String) (names : Place) : Bool :=
  (Path.below dir names).utf8ByteSize ≤ maxPathBytes

/-- The files that a walk through a directory comes by.  The directories on the way are not
told. -/
def walk (d : Disk) (here : Place) (dir : String) : List Walked :=
  match d.lookup here dir with
  | .ok (place, .directory) =>
    ((d.below place).filter fun names => canEnter dir names.dropLast).map fun names =>
      ⟨Path.below dir names, .file⟩
  | _ => []

/-- A machine with the given disk, on which a program runs in the directory `here`. -/
def machine (d : Disk) (here : Place) (settingsDirectory : Option String) : Machine where
  kind? path := (d.lookup here path).toOption.map (·.2.kind)
  read path := (d.read here path).mapError DiskError.message
  walk dir := (d.walk here dir).map some
  workingDirectory := .ok here
  settingsDirectory := settingsDirectory

end Disk

end ModelLayout
