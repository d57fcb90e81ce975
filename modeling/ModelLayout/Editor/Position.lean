import ModelLayout.Span
import ModelLayout.Text.Lines
import ModelLayout.Text.Units

/-!
# Positions in an editor

An editor counts lines from zero and columns in UTF-16 units, both in words of 32 bits.

* `Position`, `Range` — places and ranges of an editor.
* `position`, `range` — where a point or span of a text is for the editor.

## References

The diagnostics of `SPEC_FULL.md`, section 17.
-/

namespace ModelLayout
namespace Editor

/-- A place in an editor: line and UTF-16 column, both counted from zero. -/
structure Position where
  line : Nat
  character : Nat
  deriving DecidableEq, Repr, Inhabited

/-- A range in an editor. -/
structure Range where
  start : Position
  stop : Position
  deriving DecidableEq, Repr, Inhabited

/-- The number of values of a word. -/
def wordSize : Nat := Nat.pow 2 32

/-- The units in front of a byte column of a line; all units of the line if no character ends
at that column. -/
def unitsBefore (line : List Char) (column : Nat) : Nat :=
  Text.units16 ((Text.takeBytes? column line).getD line)

/-- The place of a point in a text.  A line that the text does not have is empty. -/
def position (text : String) (p : Point) : Position :=
  let index := p.line - 1
  let line := (Text.lineChars text.toList)[index]?.getD []
  ⟨index % wordSize, unitsBefore line p.column % wordSize⟩

/-- The range of a span in a text. -/
def range (text : String) (s : Span) : Range :=
  ⟨position text s.start, position text s.stop⟩

end Editor
end ModelLayout
