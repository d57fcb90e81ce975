import ModelLayout.Shell.Unicode.Composed
import ModelLayout.Shell.Unicode.Direction
import ModelLayout.Shell.Unicode.Joining
import ModelLayout.Shell.Uri.Mapping
import ModelLayout.Shell.Uri.Punycode

/-!
# Domain names

A domain name is a row of labels with dots between them.  Names of all scripts are allowed; they
are written in ASCII.  First the characters are mapped and composed; then each label has to be
one that can be read without doubt.

## Main definitions

* `Label.isReadable` — no mark in front, no character that stands for another, and invisible
  joiners only where they can be seen to matter.
* `Label.keepsDirection` — a label that reads the same next to text of another direction.
* `domain?` — a domain name as it is written.
-/

namespace ModelLayout
namespace Uri

open Text (Direction Joining combiningClass composed direction isMark isVirama joining pieces)

/-- A label of a domain name. -/
abbrev Label := List Char

namespace Label

/-! ### Joiners -/

/-- Whether the first character that joins or is no letter of a joining script joins in one of
the given ways. -/
def joins (ways : List Joining) : List Char → Bool
  | [] => false
  | c :: cs =>
    match joining c with
    | .transparent => joins ways cs
    | way => ways.contains way

/-- Whether invisible joiners stand only where they make a difference: after a sign that takes
the vowel off a consonant, or, if they part letters, between letters that would join.  `before`
holds the characters before, last one first. -/
def joinersMatter (before : List Char) : List Char → Bool
  | [] => true
  | c :: cs =>
    let matters :=
      if c == '\u200c' then
        before.head?.any isVirama || (joins [.after, .both] before && joins [.before, .both] cs)
      else if c == '\u200d' then before.head?.any isVirama
      else true
    matters && joinersMatter (c :: before) cs

/-! ### Labels that can be read -/

/-- Whether a label can be read without doubt. -/
def isReadable (label : Label) : Bool :=
  composed label == label && !label.head?.any isMark &&
    label.all (fun c => c != '.' && mapping c == .kept) && joinersMatter [] label

/-- What stands in front of a label that is written in ASCII for one that is not. -/
def codeMark : List Char := "xn--".toList

/-- How many characters a label in code may have. -/
def maxCode : Nat := 2000

/-- How many characters a label may have for which a code is sought. -/
def maxCoded : Nat := 1000

/-- The label that is meant, if it can be read.  Labels of ASCII that are no code are not looked
at any further; a code has to stand for a label that needs one. -/
def meant? (label : Label) : Option Label :=
  if codeMark.isPrefixOf label then do
    let code := label.drop codeMark.length
    let decoded ← if code.length ≤ maxCode then ofPunycode? code else none
    if decoded.all isAscii || !isReadable decoded then none else some decoded
  else if label.all isAscii || isReadable label then some label
  else none

/-- A label as it is written. -/
def written? (label : Label) : Option String :=
  if label.all isAscii then some (String.ofList label)
  else if label.length ≤ maxCoded then some (String.ofList (codeMark ++ punycode label))
  else none

/-! ### Direction -/

/-- Whether a label has characters that are written from right to left. -/
def hasRightToLeft (label : Label) : Bool :=
  label.any fun c => [.rightToLeft, .arabicLetter, .arabicNumber].contains (direction c)

/-- The directions that a label of right-to-left letters may have. -/
def rightToLeftKinds : List Direction :=
  [.rightToLeft, .arabicLetter, .arabicNumber, .europeanNumber, .europeanSign, .separator,
    .europeanUnit, .neutral, .boundary, .mark]

/-- The directions that a label of left-to-right letters may have. -/
def leftToRightKinds : List Direction :=
  [.leftToRight, .europeanNumber, .europeanSign, .separator, .europeanUnit, .neutral, .boundary,
    .mark]

/-- Whether a label reads the same next to text of another direction: its first letter decides
on the direction, all else goes with that, and it ends in a letter or a number. -/
def keepsDirection (label : Label) : Bool :=
  let kinds := label.map direction
  let last? := (kinds.reverse.dropWhile (· == .mark)).head?
  match kinds with
  | [] => true
  | .leftToRight :: _ =>
    kinds.all leftToRightKinds.contains && last?.any [.leftToRight, .europeanNumber].contains
  | .rightToLeft :: _ | .arabicLetter :: _ =>
    kinds.all rightToLeftKinds.contains &&
      last?.any [.rightToLeft, .arabicLetter, .europeanNumber, .arabicNumber].contains &&
      !(kinds.contains .europeanNumber && kinds.contains .arabicNumber)
  | _ => false

end Label

/-! ### Names -/

/-- Whether a character of ASCII may stand in a name. -/
def isNameChar (c : Char) : Bool :=
  ' ' < c && c != '\x7f' && !"%#/:<>?@[\\]^|".toList.contains c

/-- A domain name as it is written, if it is one. -/
def domain? (name : List Char) : Option String := do
  let chars := composed (← mapped? name)
  if !chars.all isNameChar then none
  let labels ← (pieces (· == '.') chars).mapM Label.meant?
  if labels.any Label.hasRightToLeft && !labels.all Label.keepsDirection then none
  let written ← labels.mapM Label.written?
  return ".".intercalate written

end Uri
end ModelLayout
