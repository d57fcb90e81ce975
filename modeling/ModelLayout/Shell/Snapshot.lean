import ModelLayout.Disk
import ModelLayout.Review
import ModelLayout.Text.Digits
import ModelLayout.Text.Lines
import ModelLayout.Text.Pieces

/-!
# Snapshots of a disk

The program runs on a snapshot: a text that lists the files and directories of a disk, together
with the parse trees of the Ruby files.  Each line is one entry, a keyword
and what belongs to it, with single spaces in between.

* `dir PATH` — a directory.
* `cwd PATH`, `user PATH` — the working directory, and the one in which the user keeps settings.
* `file HEX PATH` — a file with its bytes, two hexadecimal digits each.
* `row PARENT FIELD KIND NAMED START END ROW COLUMN ROW COLUMN` — a node of the parse tree of the
  file before it.  Rows come in pre-order; `-` stands for no parent and no field.

## Main definitions

* `Snapshot`, `Snapshot.parse?` — snapshots, and reading them.
-/

namespace ModelLayout

/-- The machine of a snapshot, and the parse trees of its Ruby files. -/
structure Snapshot where
  machine : Machine
  sources : List SourceFile

namespace Snapshot

open Text (isDigitOf pieces valueOf)

/-- An entry of a snapshot. -/
inductive Entry
  | directory (place : Place)
  | workingDirectory (place : Place)
  | userDirectory (place : Place)
  | file (bytes : ByteArray) (place : Place)
  | row (r : Link Ruby.Label)

/-- The characters up to the first space, and those after it. -/
def cut (cs : List Char) : List Char × List Char :=
  (cs.takeWhile (· != ' '), (cs.dropWhile (· != ' ')).drop 1)

/-- The place that a path from the top names. -/
def placeOf (path : List Char) : Place :=
  (Path.parts (String.ofList path)).filter (!·.isEmpty)

/-- The bytes that pairs of hexadecimal digits stand for. -/
def bytes? : List Char → Option (List UInt8)
  | [] => some []
  | [_] => none
  | a :: b :: cs =>
    if isDigitOf 16 a && isDigitOf 16 b then
      (bytes? cs).map (UInt8.ofNat (valueOf 16 [a, b]) :: ·)
    else none

/-- The node that the words of a row describe. -/
def row? : List String → Option (Link Ruby.Label)
  | [parent, field, kind, named, startByte, endByte, startRow, startColumn, endRow, endColumn] => do
    let label : Ruby.Label := {
      field := Ruby.Field.ofName? field
      kind := Ruby.Kind.ofName kind
      named := named == "1"
      span := ⟨← startByte.toNat?, ← endByte.toNat?,
        ⟨(← startRow.toNat?) + 1, ← startColumn.toNat?⟩,
        ⟨(← endRow.toNat?) + 1, ← endColumn.toNat?⟩⟩ }
    return (parent.toNat?, label)
  | _ => none

/-- The entry on a line. -/
def entry? (line : List Char) : Option Entry :=
  let (keyword, rest) := cut line
  match String.ofList keyword with
  | "dir" => some (.directory (placeOf rest))
  | "cwd" => some (.workingDirectory (placeOf rest))
  | "user" => some (.userDirectory (placeOf rest))
  | "file" =>
    let (hex, path) := cut rest
    (bytes? hex).map fun bytes => .file ⟨bytes.toArray⟩ (placeOf path)
  | "row" => (row? ((pieces (· == ' ') rest).map String.ofList)).map .row
  | _ => none

/-- A file with its parse tree, if it is text and has one. -/
def source? (bytes : ByteArray) (rows : List (Link Ruby.Label)) : Option SourceFile := do
  return ⟨← String.fromUTF8? bytes, ← Ruby.Tree.ofRows rows⟩

/-- What the entries of a snapshot list. -/
structure Listing where
  files : List (Place × ByteArray) := []
  directories : List Place := []
  workingDirectory : Place := []
  userDirectory : Option Place := none
  sources : List SourceFile := []

/-- The rows in front of the first other entry, and what the entries after them list. -/
def build : List Entry → List (Link Ruby.Label) × Listing
  | [] => ([], {})
  | e :: es =>
    let (rows, l) := build es
    match e with
    | .row r => (r :: rows, l)
    | .directory place => ([], { l with directories := place :: l.directories })
    | .workingDirectory place =>
      ([], { l with workingDirectory := place, directories := place :: l.directories })
    | .userDirectory place => ([], { l with userDirectory := some place })
    | .file bytes place =>
      ([], { l with
        files := (place, bytes) :: l.files
        sources := (source? bytes rows).toList ++ l.sources })

/-- The snapshot that a text describes, if what it lists makes a disk. -/
def parse? (text : String) : Option Snapshot := do
  let entries ← (Text.lineChars text.toList).mapM entry?
  let l := (build entries).2
  let disk ← Disk.ofEntries? l.files l.directories
  return ⟨disk.machine l.workingDirectory (l.userDirectory.map Path.absolute), l.sources⟩

end Snapshot

end ModelLayout
