import ModelLayout.Text.Units

/-!
# Positions in a file

* `Point` — a line, counted from one, and a column in bytes, counted from zero.
* `Span` — a range of bytes together with the points at which it starts and stops.
* `Span.cover` — the part of a text in a range.
-/

namespace ModelLayout

/-- A place in a file: a line, counted from one, and a column in bytes, counted from zero. -/
structure Point where
  line : Nat
  column : Nat
  deriving DecidableEq, Repr, Inhabited

/-- The range from `startByte` up to but not including `endByte`. -/
structure Span where
  startByte : Nat
  endByte : Nat
  start : Point
  stop : Point
  deriving DecidableEq, Repr, Inhabited

namespace Span

/-- The range from the start of `first` to the end of `last`. -/
def hull (first last : Span) : Span :=
  ⟨first.startByte, last.endByte, first.start, last.stop⟩

/-- The line on which a range starts. -/
def firstLine (s : Span) : Nat :=
  s.start.line

/-- The characters that a range covers; none if it cuts a character in two or leaves the text. -/
def cover (s : Span) (text : List Char) : List Char :=
  (Text.sliceChars? text s.startByte s.endByte).getD []

@[simp] theorem hull_self (s : Span) : hull s s = s := rfl

end Span

end ModelLayout
