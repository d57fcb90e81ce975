/-!
# Lines of a text

A line ends at a line feed; a carriage return right before that line feed belongs to the
ending.  A last line without a line feed counts if it is not empty, and keeps all of its
characters.

* `lines` — the lines of a text, without their endings.
-/

namespace ModelLayout
namespace Text

/-- The line whose characters are `line`, last one first, without a carriage return at its end. -/
def closeLine : List Char → List Char
  | '\r' :: line => line.reverse
  | line => line.reverse

/-- The lines of `cs` after the characters `line` (last one first) of the line being read. -/
def linesAfter (line : List Char) : List Char → List (List Char)
  | [] => if line.isEmpty then [] else [line.reverse]
  | c :: cs =>
    if c = '\n' then closeLine line :: linesAfter [] cs else linesAfter (c :: line) cs

/-- The lines of a list of characters. -/
def lineChars (cs : List Char) : List (List Char) :=
  linesAfter [] cs

/-- The lines of a text. -/
def lines (s : String) : List String :=
  (lineChars s.toList).map String.ofList

@[simp] theorem linesAfter_nil (line : List Char) :
    linesAfter line [] = if line.isEmpty then [] else [line.reverse] := rfl

@[simp] theorem linesAfter_cons (line : List Char) (c : Char) (cs : List Char) :
    linesAfter line (c :: cs)
      = if c = '\n' then closeLine line :: linesAfter [] cs else linesAfter (c :: line) cs := rfl

end Text
end ModelLayout
