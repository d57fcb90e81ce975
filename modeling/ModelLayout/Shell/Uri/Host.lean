import ModelLayout.Text.Pieces
import ModelLayout.Shell.Uri.Domain
import ModelLayout.Shell.Uri.Percent

/-!
# Hosts

A host is a name or an address.  A name whose last label is a number has to be an address of
version 4; an address of version 6 stands in brackets.

## Main definitions

* `Host`, `Host.text` — hosts and how they are written.
* `Host.parse?` — a host of a scheme that has rules for hosts.
* `Host.parsePlain?` — a host of any other scheme.
-/

namespace ModelLayout
namespace Uri

open Text (isDigitOf pieces valueOf)

/-- A host. -/
inductive Host
  | name (text : String)
  /-- An address of 32 bits. -/
  | v4 (address : Nat)
  /-- An address of eight groups of 16 bits. -/
  | v6 (groups : List Nat)
  deriving DecidableEq, Repr, Inhabited

namespace Host

/-! ### Addresses of version 4 -/

/-- A number of an address: in base sixteen after `0x`, in base eight after `0`. -/
def number? : List Char → Option Nat
  | [] => none
  | '0' :: 'x' :: ds | '0' :: 'X' :: ds => if ds.all (isDigitOf 16) then some (valueOf 16 ds) else none
  | '0' :: d :: ds => if (d :: ds).all (isDigitOf 8) then some (valueOf 8 (d :: ds)) else none
  | ds => if ds.all (isDigitOf 10) then some (valueOf 10 ds) else none

/-- What stands between the dots of a name; a dot at its end does not count. -/
def labels (name : List Char) : List (List Char) :=
  match (pieces (· == '.') name).reverse with
  | [] :: label :: rest => (label :: rest).reverse
  | rest => rest.reverse

/-- Whether the last label of a name is a number. -/
def endsInNumber (name : List Char) : Bool :=
  match (labels name).getLast? with
  | none => false
  | some label => (!label.isEmpty && label.all (isDigitOf 10)) || (number? label).isSome

/-- The address that a name stands for.  The last number fills all bytes that are left. -/
def v4? (name : List Char) : Option Nat := do
  let numbers ← (labels name).mapM number?
  let last ← numbers.getLast?
  let bytes := numbers.dropLast
  let room := Nat.pow 256 (4 - bytes.length)
  if bytes.length < 4 && bytes.all (· < 256) && last < room then
    some (bytes.foldl (fun n b => n * 256 + b) 0 * room + last)
  else none

/-- An address of version 4 as four bytes. -/
def v4Text (address : Nat) : String :=
  ".".intercalate ([24, 16, 8, 0].map fun shift => toString (address >>> shift % 256))

/-! ### Addresses of version 6 -/

/-- A group: up to four digits of base sixteen. -/
def group? (cs : List Char) : Option Nat :=
  if !cs.isEmpty && cs.length ≤ 4 && cs.all (isDigitOf 16) then some (valueOf 16 cs) else none

/-- A byte in base ten, without needless zeros. -/
def byte? (cs : List Char) : Option Nat :=
  if !cs.isEmpty && cs.all (isDigitOf 10) && (cs.length = 1 || cs.head? != some '0') &&
      valueOf 10 cs < 256 then some (valueOf 10 cs)
  else none

/-- Groups with colons between them. -/
def groups? (cs : List Char) : Option (List Nat) :=
  if cs.isEmpty then some [] else (pieces (· == ':') cs).mapM group?

/-- Groups with colons between them; the last two of them may be written as four bytes. -/
def lastGroups? (cs : List Char) : Option (List Nat) :=
  match (pieces (· == ':') cs).reverse with
  | last :: rest =>
    if last.contains '.' then do
      let [a, b, c, d] ← (pieces (· == '.') last).mapM byte? | none
      let groups ← rest.reverse.mapM group?
      return groups ++ [a * 256 + b, c * 256 + d]
    else groups? cs
  | [] => none

/-- What stands before and after the first two colons in a row. -/
def splitAtGap : List Char → Option (List Char × List Char)
  | [] | [_] => none
  | c :: d :: cs =>
    if c == ':' && d == ':' then some ([], cs)
    else (splitAtGap (d :: cs)).map fun (before, after) => (c :: before, after)

/-- The groups of an address.  Two colons in a row stand for all groups of zero bits that are
missing, at least one. -/
def v6? (cs : List Char) : Option (List Nat) :=
  match splitAtGap cs with
  | none => do
    let groups ← lastGroups? cs
    if groups.length = 8 then some groups else none
  | some (before, after) => do
    let before ← groups? before
    let after ← lastGroups? after
    let count := before.length + after.length
    if count < 8 then some (before ++ List.replicate (8 - count) 0 ++ after) else none

/-- Place and length of the first of the longest rows of zero groups. -/
def longestGap (groups : List Nat) : Nat × Nat :=
  (List.range groups.length).foldl (fun best i =>
    let length := ((groups.drop i).takeWhile (· == 0)).length
    if best.2 < length then (i, length) else best) (0, 0)

/-- Groups in base sixteen with colons between them. -/
def groupsText (groups : List Nat) : String :=
  ":".intercalate (groups.map fun g => String.ofList (Nat.toDigits 16 g))

/-- An address of version 6; a row of zero groups is left out. -/
def v6Text (groups : List Nat) : String :=
  let (start, length) := longestGap groups
  if length < 2 then groupsText groups
  else groupsText (groups.take start) ++ "::" ++ groupsText (groups.drop (start + length))

/-! ### Hosts -/

/-- How a host is written. -/
def text : Host → String
  | name text => text
  | v4 address => v4Text address
  | v6 groups => "[" ++ v6Text groups ++ "]"

/-- An address of version 6, after the opening bracket. -/
def bracketed? (cs : List Char) : Option Host :=
  if cs.getLast? == some ']' then (v6? cs.dropLast).map v6 else none

/-- A host of a scheme that has rules for hosts. -/
def parse? : List Char → Option Host
  | '[' :: cs => bracketed? cs
  | cs => do
    let decoded ← String.fromUTF8? (ByteArray.mk (decode cs).toArray)
    let written ← domain? decoded.toList
    if written.isEmpty then none
    else if endsInNumber written.toList then (v4? written.toList).map v4
    else some (name written)

/-- A host of a scheme without rules for hosts. -/
def parsePlain? : List Char → Option Host
  | '[' :: cs => bracketed? cs
  | cs =>
    if cs.any ("\x00\t\n\r #/:<>?@[\\]^|".toList.contains ·) then none
    else some (name (String.ofList (encode .plain cs)))

end Host
end Uri
end ModelLayout
