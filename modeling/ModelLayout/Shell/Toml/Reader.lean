import ModelLayout.Text.Digits

/-!
# Readers

A reader takes a value off the front of a list of characters, or fails.  When one of several
readers may apply, they are tried in order, each from the same place.

* `Reader` — readers; the monad and `<|>` come from the standard library.
* `satisfy`, `char`, `word` — a character of some kind, one character, several.
* `many`, `many1`, `maybe` — repetition.
* `digits` — digits of some base with single underscores between them.
-/

namespace ModelLayout
namespace Toml

open Text (isDigitOf valueOf)

/-- A reader takes a value off the front of a list of characters, or fails. -/
abbrev Reader (α : Type) := StateT (List Char) Option α

namespace Reader

variable {α : Type}

/-- A character that passes a test. -/
def satisfy (test : Char → Bool) : Reader Char := fun
  | [] => none
  | c :: cs => if test c then some (c, cs) else none

/-- The character `c`. -/
def char (c : Char) : Reader Unit := do
  let _ ← satisfy (· == c)

/-- The characters of `s`, one after the other. -/
def word (s : String) : Reader Unit :=
  s.toList.forM char

/-- What `r` reads, if it reads anything. -/
def maybe (r : Reader α) : Reader (Option α) :=
  (some <$> r) <|> pure none

/-- What `r` reads at most `n` times in a row. -/
def upTo (r : Reader α) : Nat → Reader (List α)
  | 0 => pure []
  | n + 1 => (do
      let a ← r
      let rest ← upTo r n
      return a :: rest) <|> pure []

/-- What `r` reads in a row, as often as possible.  Each time it has to take a character, so it
cannot succeed more often than there are characters. -/
def many (r : Reader α) : Reader (List α) := fun cs => upTo r cs.length cs

/-- What `r` reads in a row, at least once. -/
def many1 (r : Reader α) : Reader (List α) := do
  let a ← r
  let rest ← many r
  return a :: rest

/-- All characters at the front that pass a test. -/
def skip (test : Char → Bool) : Reader Unit := fun cs => some ((), cs.dropWhile test)

/-- Succeeds at the end of the text only. -/
def atEnd : Reader Unit := fun
  | [] => some ((), [])
  | _ => none

/-- Fails unless a condition holds. -/
def ensure (condition : Bool) : Reader Unit :=
  if condition then pure () else failure

/-! ### Digits -/

/-- Digits of the given base; a single underscore may stand between two of them. -/
def digits (base : Nat) : Reader (List Char) := do
  let first ← satisfy (isDigitOf base)
  let rest ← many (do
    let _ ← maybe (char '_')
    satisfy (isDigitOf base))
  return first :: rest

/-- Exactly `n` digits of the given base. -/
def exactly (base : Nat) : Nat → Reader (List Char)
  | 0 => pure []
  | n + 1 => do
    let d ← satisfy (isDigitOf base)
    let rest ← exactly base n
    return d :: rest

/-- A number of exactly `n` decimal digits. -/
def fixed (n : Nat) : Reader Nat := do
  return valueOf 10 (← exactly 10 n)

end Reader
end Toml
end ModelLayout
