/-!
# Pieces of a text

* `pieces` — what stands between the separators of a list of characters.
-/

namespace ModelLayout
namespace Text

/-- What stands between the separators of a list of characters, empty pieces too. -/
def pieces (isSeparator : Char → Bool) : List Char → List (List Char)
  | [] => [[]]
  | c :: cs =>
    if isSeparator c then [] :: pieces isSeparator cs
    else
      match pieces isSeparator cs with
      | [] => [[c]]
      | piece :: rest => (c :: piece) :: rest

@[simp] theorem pieces_nil (isSeparator : Char → Bool) : pieces isSeparator [] = [[]] := rfl

end Text
end ModelLayout
