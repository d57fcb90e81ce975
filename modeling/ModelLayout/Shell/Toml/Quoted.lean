import ModelLayout.Shell.Toml.Reader

/-!
# Quoted texts

TOML has four kinds of quoted text: in double quotes with escapes or in single quotes without
them, and each on one line or, between triple quotes, over several.

* `Reader.basic`, `Reader.literal` — a text on one line.
* `Reader.multilineBasic`, `Reader.multilineLiteral` — a text over several lines.  A line break
  right after the opening quotes does not count.
-/

namespace ModelLayout
namespace Toml

open Text (valueOf)
namespace Reader

/-- Tab and space. -/
def isSpace (c : Char) : Bool :=
  c == '\t' || c == ' '

/-- A character that may stand in texts and comments: no control character but the tab. -/
def isPrintable (c : Char) : Bool :=
  c == '\t' || (0x20 ≤ c.toNat && c.toNat != 0x7F)

/-- The end of a line, as it is written. -/
def newline : Reader (List Char) :=
  (char '\n' *> pure ['\n']) <|> (char '\r' *> char '\n' *> pure ['\r', '\n'])

/-- The character with the code that `n` hexadecimal digits give. -/
def codePoint (n : Nat) : Reader Char := do
  let code := valueOf 16 (← exactly 16 n)
  ensure (Nat.isValidChar code)
  return Char.ofNat code

/-- What follows the backslash of an escape. -/
def escaped : Reader Char := do
  match ← satisfy (fun _ => true) with
  | 'b' => return '\x08'
  | 't' => return '\t'
  | 'n' => return '\n'
  | 'f' => return '\x0c'
  | 'r' => return '\r'
  | 'e' => return '\x1b'
  | '\x22' => return '\x22'
  | '\\' => return '\\'
  | 'x' => codePoint 2
  | 'u' => codePoint 4
  | 'U' => codePoint 8
  | _ => failure

/-- A character of a text in double quotes. -/
def basicChar : Reader Char :=
  satisfy (fun c => isPrintable c && c != '\x22' && c != '\\') <|> (char '\\' *> escaped)

/-- A character of a text in single quotes. -/
def literalChar : Reader Char :=
  satisfy (fun c => isPrintable c && c != '\x27')

/-- A text in double quotes. -/
def basic : Reader String := do
  char '\x22'
  let cs ← many basicChar
  char '\x22'
  return String.ofList cs

/-- A text in single quotes. -/
def literal : Reader String := do
  char '\x27'
  let cs ← many literalChar
  char '\x27'
  return String.ofList cs

/-- A backslash at the end of a line takes all blanks and line breaks that follow with it. -/
def lineContinuation : Reader (List Char) := do
  char '\\'
  skip isSpace
  let _ ← newline
  let _ ← many (newline <|> (do return [← satisfy isSpace]))
  return []

/-- A quote that does not belong to the closing ones: fewer than three stand here. -/
def loneQuote (quote : Char) : Reader (List Char) := fun
  | a :: b :: c :: cs => if a == quote && !(b == quote && c == quote) then some ([a], b :: c :: cs) else none
  | [_, _] | [_] | [] => none

/-- The closing quotes.  One or two more quotes in front of them belong to the text. -/
def closing (quote : Char) : Reader (List Char) := do
  char quote
  char quote
  char quote
  let extra ← upTo (satisfy (· == quote)) 2
  return extra

/-- The text between triple quotes, given what may stand in it. -/
def multiline (quote : Char) (piece : Reader (List Char)) : Reader String := do
  char quote
  char quote
  char quote
  let _ ← maybe newline
  let pieces ← many (piece <|> newline <|> loneQuote quote)
  let extra ← closing quote
  return String.ofList (pieces.flatten ++ extra)

/-- A text in triple double quotes. -/
def multilineBasic : Reader String :=
  multiline '\x22' (lineContinuation <|> (do return [← basicChar]))

/-- A text in triple single quotes. -/
def multilineLiteral : Reader String :=
  multiline '\x27' (do return [← literalChar])

end Reader
end Toml
end ModelLayout
