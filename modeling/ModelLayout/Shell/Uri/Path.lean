import ModelLayout.Shell.Uri.Percent

/-!
# Paths

The path of most URIs is a row of segments.  A segment of one dot stands for nothing, one of two
dots takes back the segment before it.  A drive, a letter and a colon, is never taken back.

## Main definitions

* `Path` — the segments of a path.
* `Path.resolve` — the path that is left when no dots are.
* `Path.text` — a path as it is written.
-/

namespace ModelLayout
namespace Uri

/-- The characters that are passed over wherever they stand. -/
def isPassedOver (c : Char) : Bool :=
  c == '\t' || c == '\n' || c == '\r'

/-- Characters without those that are passed over. -/
def visible (cs : List Char) : List Char :=
  cs.filter (!isPassedOver ·)

/-- A letter and a colon; a bar may stand for the colon. -/
def isDrive : List Char → Bool
  | [letter, c] => letter.isAlpha && (c == ':' || c == '|')
  | _ => false

/-- A path. -/
structure Path where
  segments : List (List Char) := []
  /-- Whether the first segment was given as a drive. -/
  onDrive : Bool := false
  deriving DecidableEq, Repr, Inhabited

namespace Path

/-- A drive, perhaps with a backslash after it. -/
def startsWithDrive : List Char → Bool
  | letter :: c :: rest => isDrive [letter, c] && (rest.isEmpty || rest.head? == some '\\')
  | _ => false

/-- One dot, perhaps encoded. -/
def isOneDot (segment : List Char) : Bool :=
  [".", "%2e"].contains (String.ofList (segment.map Char.toLower))

/-- Two dots, perhaps encoded. -/
def isTwoDots (segment : List Char) : Bool :=
  ["..", "%2e.", ".%2e", "%2e%2e"].contains (String.ofList (segment.map Char.toLower))

/-- A path with one more segment. -/
def push (p : Path) (segment : List Char) : Path :=
  { p with segments := p.segments ++ [segment] }

/-- Take back the last segment, unless it starts with a drive. -/
def back (p : Path) : Path :=
  match p.segments.getLast? with
  | none => p
  | some last => if startsWithDrive last then p else { p with segments := p.segments.dropLast }

/-- A drive with a colon and what stands after it, if anything does and a character that is
passed over parts them. -/
def partedDrive? (segment : List Char) : Option (List Char × List Char) :=
  match segment.span (· != ':') with
  | (before, colon :: after) =>
    let drive := visible (before ++ [colon])
    let rest := visible after
    if isDrive drive && after.head?.any isPassedOver && !rest.isEmpty then some (drive, rest)
    else none
  | _ => none

/-- A path that starts with the given segment.  A drive is written with a colon; what is parted
from it is a segment of its own. -/
def start (segment : List Char) : Path :=
  match partedDrive? segment with
  | some (drive, rest) => { segments := [drive, encode .path rest] }
  | none =>
    match visible segment with
    | [letter, c] =>
      if isDrive [letter, c] then { segments := [[letter, ':']], onDrive := true }
      else { segments := [encode .path [letter, c]] }
    | segment => { segments := [encode .path segment] }

/-- A path with one more segment, as it was given.  If `drives` says so, the first one may be a
drive. -/
def add (drives : Bool) (p : Path) (segment : List Char) : Path :=
  if drives && p.segments.isEmpty then start segment
  else p.push (encode .path (visible segment))

/-- Add segments, as they were given, to a path.  After dots at the end, an empty segment is
last. -/
def resolveFrom (drives : Bool) : Path → List (List Char) → Path
  | p, [] => p
  | p, [last] =>
    if isTwoDots (visible last) then p.back.push []
    else if isOneDot (visible last) then p.push []
    else p.add drives last
  | p, segment :: next :: rest =>
    if isTwoDots (visible segment) then resolveFrom drives p.back (next :: rest)
    else if isOneDot (visible segment) then resolveFrom drives p (next :: rest)
    else resolveFrom drives (p.add drives segment) (next :: rest)

/-- The path of the given segments that is left when no dots are. -/
def resolve (drives : Bool) (segments : List (List Char)) : Path :=
  resolveFrom drives {} segments

/-- Segments without empty ones in front; the last one stays. -/
def dropEmpty : List (List Char) → List (List Char)
  | [] :: next :: rest => dropEmpty (next :: rest)
  | segments => segments

/-- A path without empty segments in front. -/
def trimmed (p : Path) : Path :=
  { p with segments := dropEmpty p.segments }

/-- A path as it is written: a slash in front of each segment. -/
def text (p : Path) : String :=
  String.ofList (p.segments.flatMap ('/' :: ·))

end Path
end Uri
end ModelLayout
