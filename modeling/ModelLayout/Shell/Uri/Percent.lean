import ModelLayout.Text.Digits

/-!
# Percent-encoding

A character that may not stand in a part of a URI is written as the bytes of its UTF-8 form,
each of them a percent sign and two digits of base sixteen.

## Main definitions

* `Part`, `Part.keeps` — the parts of a URI, and the characters that may stand in them.
* `encode`, `decode` — to and from the written form.
-/

namespace ModelLayout
namespace Uri

open Text (digitValue isDigitOf)

/-- The parts of a URI that differ in the characters that may stand in them. -/
inductive Part
  /-- A path that is not made of segments, or a host of a scheme without rules for hosts. -/
  | plain
  | userinfo
  | path
  | query
  /-- The query of a URI that is known to stand for a place on the web or on a disk. -/
  | placeQuery
  | fragment
  deriving DecidableEq, Repr, Inhabited

/-- The printable characters of ASCII that may not stand in a part. -/
def Part.escaped : Part → String
  | plain => ""
  | userinfo => " \"<>`#?\x7b\x7d/:;=@[\\]^|"
  | path => " \"<>`#?\x7b\x7d"
  | query => " \"#<>"
  | placeQuery => " \"#<>'"
  | fragment => " \"<>`"

/-- Whether a character may stand in a part. -/
def Part.keeps (p : Part) (c : Char) : Bool :=
  ' ' ≤ c && c < '\x7f' && !p.escaped.toList.contains c

/-- The digit of base sixteen with the given value. -/
def hexDigit (n : Nat) : Char :=
  n.digitChar.toUpper

/-- The written form of a byte. -/
def encodeByte (b : UInt8) : List Char :=
  ['%', hexDigit (b.toNat / 16), hexDigit (b.toNat % 16)]

/-- The written form of a character in a part. -/
def encodeChar (p : Part) (c : Char) : List Char :=
  if p.keeps c then [c] else (String.utf8EncodeChar c).flatMap encodeByte

/-- The written form of characters in a part. -/
def encode (p : Part) (cs : List Char) : List Char :=
  cs.flatMap (encodeChar p)

/-- The bytes that a written form stands for.  A percent sign without two digits stands for
itself. -/
def decode : List Char → List UInt8
  | [] => []
  | [c] => String.utf8EncodeChar c
  | [c, d] => String.utf8EncodeChar c ++ String.utf8EncodeChar d
  | c :: d :: e :: cs =>
    if c == '%' && isDigitOf 16 d && isDigitOf 16 e then
      UInt8.ofNat (16 * digitValue d + digitValue e) :: decode cs
    else String.utf8EncodeChar c ++ decode (d :: e :: cs)

end Uri
end ModelLayout
