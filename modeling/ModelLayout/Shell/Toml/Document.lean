import ModelLayout.Shell.Toml.Scalar
import ModelLayout.Shell.Toml.Table

/-!
# TOML documents

A document is a sequence of lines, each of them empty, a key with its value, or a header; a
comment may end any of them.

## Main definitions

* `Reader.key` — a dotted key of at most `maxDepth` names.
* `Reader.value` — a value; arrays and inline tables nest at most `maxDepth` deep.
* `Line`, `Reader.line` — the lines of a document.
* `parse?` — the table that a document describes.
-/

namespace ModelLayout
namespace Toml

/-- How deep arrays and inline tables may be nested, and how many names a key may have. -/
def maxDepth : Nat := 80

/-- A line of a document. -/
inductive Line
  | blank
  | assignment (a : Assignment)
  | header (isElement : Bool) (key : Key)
  deriving Repr, Inhabited

namespace Reader

/-- Spaces and tabs. -/
def spaces : Reader Unit := skip isSpace

/-- A comment, up to the end of the line. -/
def comment : Reader Unit := do
  char '#'
  skip isPrintable

/-- Spaces, line breaks and comments. -/
def filler : Reader Unit := do
  let _ ← many ((do let _ ← satisfy isSpace) <|> (do
    let _ ← maybe comment
    let _ ← newline))

/-- A letter, digit, underscore or hyphen. -/
def isBare (c : Char) : Bool :=
  c.isAlphanum || c == '_' || c == '-'

/-- One name of a key. -/
def name : Reader String :=
  basic <|> literal <|> (String.ofList <$> many1 (satisfy isBare))

/-- A dotted key. -/
def key : Reader Key := do
  let first ← name
  let rest ← many (do
    spaces
    char '.'
    spaces
    name)
  ensure (rest.length < maxDepth)
  return first :: rest

/-- A key with its value; `gap` is what may stand on either side of the equals sign. -/
def assignment (gap : Reader Unit) (value : Reader Value) : Reader Assignment := do
  let k ← key
  gap
  char '='
  gap
  return (k, ← value)

/-- Items with commas between them, and perhaps one after the last. -/
def commaList {α : Type} (item : Reader α) : Reader (List α) := do
  filler
  match ← maybe item with
  | none => return []
  | some first =>
    let rest ← many (do
      filler
      char ','
      filler
      item)
    filler
    let _ ← maybe (char ',' *> filler)
    return first :: rest

/-- An array. -/
def array (value : Reader Value) : Reader Value := do
  char '['
  let items ← commaList value
  char ']'
  return .array items

/-- A table in braces.  Between the braces a line may break anywhere but within a key. -/
def inlineTable (value : Reader Value) : Reader Value := do
  char '\x7b'
  let as ← commaList (assignment filler value)
  char '\x7d'
  match Entries.insertAll as [] with
  | none => failure
  | some es => return .table .inline es

/-- A value in which arrays and inline tables are nested at most `depth` deep. -/
def value : Nat → Reader Value
  | 0 => scalar
  | depth + 1 => scalar <|> array (value depth) <|> inlineTable (value depth)

/-- The header of a table. -/
def header : Reader Line :=
  (do
    word "[["
    spaces
    let k ← key
    spaces
    word "]]"
    return .header true k) <|>
  (do
    char '['
    spaces
    let k ← key
    spaces
    char ']'
    return .header false k)

/-- A line without its end. -/
def line : Reader Line := do
  spaces
  let content ← maybe (header <|> (Line.assignment <$> assignment spaces (value maxDepth)))
  spaces
  let _ ← maybe comment
  return content.getD .blank

/-- All lines of a document.  A byte order mark may stand in front of them. -/
def document : Reader (List Line) := do
  let _ ← maybe (char '\ufeff')
  let before ← many (do
    let l ← line
    let _ ← newline
    return l)
  let last ← line
  atEnd
  return before ++ [last]

end Reader

/-- The keys in front of the first header, and the sections after it. -/
def split : List Line → List Assignment × List Section
  | [] => ([], [])
  | .blank :: rest => split rest
  | .assignment a :: rest =>
    let (as, sections) := split rest
    (a :: as, sections)
  | .header isElement key :: rest =>
    let (assignments, sections) := split rest
    ([], { isElement, key, assignments } :: sections)

/-- The table that the lines of a document describe. -/
def assemble (lines : List Line) : Option Entries := do
  let (as, sections) := split lines
  let root ← Entries.insertAll as []
  sections.foldlM Entries.addSection root

/-- The table that a document describes, if it is a document. -/
def parse? (text : String) : Option Entries := do
  let (lines, _) ← Reader.document.run text.toList
  assemble lines

end Toml
end ModelLayout
