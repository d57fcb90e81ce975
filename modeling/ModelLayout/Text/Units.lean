/-!
# Bytes and code units

Offsets into a text count the bytes of its UTF-8 form; an editor counts the units of its
UTF-16 form.

* `takeBytes?`, `dropBytes?` — cut a text after so many bytes, if a character ends there.
* `sliceChars?` — the part of a text between two byte offsets.
* `units16` — the number of UTF-16 units.
-/

namespace ModelLayout
namespace Text

/-- The characters that make up the first `n` bytes, if a character ends there. -/
def takeBytes? : Nat → List Char → Option (List Char)
  | 0, _ => some []
  | _ + 1, [] => none
  | n + 1, c :: cs =>
    if c.utf8Size ≤ n + 1 then (takeBytes? (n + 1 - c.utf8Size) cs).map (c :: ·) else none

/-- The characters after the first `n` bytes, if a character ends there. -/
def dropBytes? : Nat → List Char → Option (List Char)
  | 0, cs => some cs
  | _ + 1, [] => none
  | n + 1, c :: cs =>
    if c.utf8Size ≤ n + 1 then dropBytes? (n + 1 - c.utf8Size) cs else none

/-- The characters between the byte offsets `start` and `stop`, if both are in the text, in
this order, and no character straddles either of them. -/
def sliceChars? (cs : List Char) (start stop : Nat) : Option (List Char) :=
  if start ≤ stop then (dropBytes? start cs).bind (takeBytes? (stop - start)) else none

/-- The number of UTF-16 units of a character. -/
def charUnits16 (c : Char) : Nat :=
  if c.toNat < 0x10000 then 1 else 2

/-- The number of UTF-16 units of a list of characters. -/
def units16 : List Char → Nat
  | [] => 0
  | c :: cs => charUnits16 c + units16 cs

@[simp] theorem takeBytes?_zero (cs : List Char) : takeBytes? 0 cs = some [] := by
  cases cs <;> rfl

@[simp] theorem dropBytes?_zero (cs : List Char) : dropBytes? 0 cs = some cs := by
  cases cs <;> rfl

@[simp] theorem units16_nil : units16 [] = 0 := rfl

@[simp] theorem units16_cons (c : Char) (cs : List Char) :
    units16 (c :: cs) = charUnits16 c + units16 cs := rfl

end Text
end ModelLayout
