import ModelLayout.Shell.Unicode.CombiningClass
import ModelLayout.Shell.Unicode.Composites

/-!
# Composed texts

One text can be written in many ways: a letter with a mark is one character or two, and marks of
different classes may come in any order.  Of these ways the composed one is chosen: characters
are taken apart, marks are put in the order of their classes, and what can be put together is put
together.

## Main definitions

* `takeApart` — a character taken apart.
* `settle`, `inOrder` — marks in the order of their classes.
* `Cluster`, `Cluster.add` — a character with the marks that follow it.
* `composed` — the composed way to write a text.
-/

namespace ModelLayout
namespace Text

/-- A character taken apart, and its parts as well, `depth` times. -/
def takeApart : Nat → Char → List Char
  | 0, c => [c]
  | depth + 1, c =>
    match parts? c with
    | none => [c]
    | some (a, b) => takeApart depth a ++ [b]

/-- How often a character can be taken apart. -/
def maxParts : Nat := 4

/-- Put a character in front of a text in which the marks are in order. -/
def settle (c : Char) : List Char → List Char
  | [] => [c]
  | d :: ds =>
    if 0 < combiningClass d ∧ combiningClass d < combiningClass c then d :: settle c ds
    else c :: d :: ds

/-- A text with the marks in the order of their classes. -/
def inOrder (cs : List Char) : List Char :=
  cs.foldr settle []

/-- A character of class zero, and the marks after it that are not part of it. -/
structure Cluster where
  base : Char
  marks : List Char := []
  deriving DecidableEq, Repr, Inhabited

/-- Whether nothing stands between the base and the next character `c`: no mark, or none of a
class that is as high. -/
def Cluster.isNext (k : Cluster) (c : Char) : Bool :=
  match k.marks.getLast? with
  | none => true
  | some last => combiningClass last < combiningClass c

/-- The cluster with one more character in its base, if they can be put together. -/
def Cluster.add? (k : Cluster) (c : Char) : Option Cluster :=
  if k.isNext c then (compose? k.base c).map fun base => { k with base } else none

/-- The characters of a cluster. -/
def Cluster.chars (k : Cluster) : List Char :=
  k.base :: k.marks

/-- A cluster and the text after it, with all put together that can be. -/
def putTogether (k : Cluster) : List Char → List Char
  | [] => k.chars
  | c :: cs =>
    match k.add? c with
    | some k => putTogether k cs
    | none =>
      if combiningClass c = 0 then k.chars ++ putTogether { base := c } cs
      else putTogether { k with marks := k.marks ++ [c] } cs

/-- The composed way to write a text.  Marks in front of the first other character stay as they
are. -/
def composed (cs : List Char) : List Char :=
  let ordered := inOrder (cs.flatMap (takeApart maxParts))
  let (marks, rest) := ordered.span (combiningClass · != 0)
  match rest with
  | [] => marks
  | base :: rest => marks ++ putTogether { base } rest

end Text
end ModelLayout
