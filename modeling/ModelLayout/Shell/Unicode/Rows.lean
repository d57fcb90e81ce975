import ModelLayout.Text.Digits
import ModelLayout.Text.Pieces

/-!
# Tables of characters

Properties of characters are kept as text: a table has rows with blanks between them, and a row
is made of numbers in base sixteen with colons between them.

* `rows` — the rows of a table.
* `Ranges`, `ranges` — a set of characters, given by its ranges.
-/

namespace ModelLayout
namespace Text

/-- The rows of a table. -/
def rows (table : String) : List (List Nat) :=
  ((pieces (fun c => c == ' ' || c == '\n') table.toList).filter (!·.isEmpty)).map fun row =>
    (pieces (· == ':') row).map (valueOf 16)

/-- A set of characters: the first and the last of each range. -/
abbrev Ranges := List (Nat × Nat)

/-- The set that a table describes: a row has the first and the last of a range, or its only
character. -/
def ranges (table : String) : Ranges :=
  (rows table).filterMap fun
    | [only] => some (only, only)
    | [first, last] => some (first, last)
    | _ => none

/-- Whether a character is in a set. -/
def Ranges.contains (rs : Ranges) (c : Char) : Bool :=
  rs.any fun (first, last) => first ≤ c.toNat && c.toNat ≤ last

end Text
end ModelLayout
