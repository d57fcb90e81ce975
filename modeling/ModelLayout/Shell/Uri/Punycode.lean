/-!
# Punycode

Labels of host names that hold other characters than those of ASCII are written in ASCII: first
the characters of ASCII, then where the others go, in the order of their code points.  Each
step is a number with digits of base 36, of which the last one is recognized by being small;
how small depends on the steps before.

## Main definitions

* `punycode` — the written form of a label.
* `ofPunycode?` — the label of a written form.
-/

namespace ModelLayout
namespace Uri

/-- A character of ASCII. -/
def isAscii (c : Char) : Bool :=
  c.toNat < 128

/-! ### Steps -/

/-- The digit of base 36 with the given value: letters come first. -/
def digit36 (n : Nat) : Char :=
  if n < 26 then Char.ofNat ('a'.toNat + n) else Char.ofNat ('0'.toNat + (n - 26))

/-- The value of a digit of base 36. -/
def digit36Value? (c : Char) : Option Nat :=
  if 'a' ≤ c ∧ c ≤ 'z' then some (c.toNat - 'a'.toNat)
  else if 'A' ≤ c ∧ c ≤ 'Z' then some (c.toNat - 'A'.toNat)
  else if '0' ≤ c ∧ c ≤ '9' then some (c.toNat - '0'.toNat + 26)
  else none

/-- The bound below which the digit at the distance `k` is the last one. -/
def lastDigitBound (bias k : Nat) : Nat :=
  min 26 (max 1 (k - bias))

theorem lastDigitBound_pos (bias k : Nat) : 0 < lastDigitBound bias k := by
  unfold lastDigitBound
  omega

/-- The digits of a step. -/
def stepDigits (bias k n : Nat) : List Char :=
  let bound := lastDigitBound bias k
  if n < bound then [digit36 n]
  else
    digit36 (bound + (n - bound) % (36 - bound)) ::
      stepDigits bias (k + 36) ((n - bound) / (36 - bound))
termination_by n
decreasing_by
  have hpos := lastDigitBound_pos bias k
  calc (n - lastDigitBound bias k) / (36 - lastDigitBound bias k)
      ≤ n - lastDigitBound bias k := Nat.div_le_self _ _
    _ < n := by omega

/-- The bias for steps of the size `delta`, counted from `k`. -/
def biasOf (delta k : Nat) : Nat :=
  if 455 < delta then biasOf (delta / 35) (k + 36) else k + 36 * delta / (delta + 38)
termination_by delta
decreasing_by omega

/-- The bias after a step of the size `delta`, when `count` characters have been written. -/
def nextBias (delta count : Nat) (isFirst : Bool) : Nat :=
  let delta := if isFirst then delta / 700 else delta / 2
  biasOf (delta + delta / count) 0

/-- The bias before the first step. -/
def firstBias : Nat := 72

/-! ### Writing -/

/-- What has been written so far, and the step that is being counted. -/
structure PunycodeState where
  written : List Char
  /-- How many characters of the label have been written. -/
  count : Nat
  delta : Nat := 0
  bias : Nat := firstBias
  isFirst : Bool := true

/-- Pass a character of the label on the way to the next place for the code point `n`. -/
def PunycodeState.pass (n : Nat) (s : PunycodeState) (c : Char) : PunycodeState :=
  if c.toNat < n then { s with delta := s.delta + 1 }
  else if c.toNat = n then
    { written := s.written ++ stepDigits s.bias 36 s.delta
      count := s.count + 1
      delta := 0
      bias := nextBias s.delta (s.count + 1) s.isFirst
      isFirst := false }
  else s

/-- Write all places of the code points, the first of which come after those below `n`. -/
def PunycodeState.write (label : List Char) : Nat → List Nat → PunycodeState → PunycodeState
  | _, [], s => s
  | n, m :: ms, s =>
    let s := { s with delta := s.delta + (m - n) * (s.count + 1) }
    let s := label.foldl (pass m) s
    write label (m + 1) ms { s with delta := s.delta + 1 }

/-- The written form of a label. -/
def punycode (label : List Char) : List Char :=
  let ascii := label.filter isAscii
  let others := ((label.filter (!isAscii ·)).map Char.toNat).eraseDups.mergeSort
  let start : PunycodeState :=
    { written := if ascii.isEmpty then [] else ascii ++ ['-'], count := ascii.length }
  (start.write label 128 others).written

/-! ### Reading -/

/-- What has been read so far: the label, and the last code point and place that were added. -/
structure PunycodeReader where
  label : List Char
  codePoint : Nat := 128
  place : Nat := 0
  bias : Nat := firstBias
  isFirst : Bool := true

/-- Add a character to the label, `delta` places after the last one; after the end of the label
the next code point is meant, from its start. -/
def PunycodeReader.add? (r : PunycodeReader) (delta : Nat) : Option PunycodeReader :=
  let size := r.label.length + 1
  let codePoint := r.codePoint + (r.place + delta) / size
  let place := (r.place + delta) % size
  if h : codePoint.isValidChar then
    some {
      label := r.label.take place ++ Char.ofNatAux codePoint h :: r.label.drop place
      codePoint
      place := place + 1
      bias := nextBias delta size r.isFirst
      isFirst := false }
  else none

/-- Read digits.  Those of the step that is being read sum up to `delta`; the next one is at the
distance `k` and counts `weight`.  A step must not be broken off. -/
def PunycodeReader.read? (r : PunycodeReader) (delta k weight : Nat) :
    List Char → Option (List Char)
  | [] => if k = 36 then some r.label else none
  | c :: cs =>
    match digit36Value? c with
    | none => none
    | some digit =>
      let delta := delta + digit * weight
      let bound := lastDigitBound r.bias k
      if digit < bound then
        match r.add? delta with
        | none => none
        | some r => r.read? 0 36 1 cs
      else r.read? delta (k + 36) (weight * (36 - bound)) cs

/-- The label of a written form.  The last hyphen ends the characters of ASCII, if there are
any. -/
def ofPunycode? (cs : List Char) : Option (List Char) :=
  match cs.reverse.span (· != '-') with
  | (steps, _ :: c :: ascii) =>
    PunycodeReader.read? { label := (c :: ascii).reverse } 0 36 1 steps.reverse
  | _ => PunycodeReader.read? { label := [] } 0 36 1 cs

end Uri
end ModelLayout
