/-!
# Writing JSON

The values that reports are made of, and their text.  The text is laid out over several lines:
every element of an array and every field of an object has its own, indented by two spaces for
each level.

* `Json` — the values.
* `Json.quote` — the text of a string: quotes, backslashes and control characters are escaped.
* `Json.pretty` — the text of a value.
-/

namespace ModelLayout

/-- A JSON value.  The numbers are natural. -/
inductive Json
  | number (n : Nat)
  | string (s : String)
  | array (items : List Json)
  | object (fields : List (String × Json))
  deriving Repr, Inhabited

namespace Json

/-- A character inside of a quoted string. -/
def escapeChar (c : Char) : List Char :=
  if c = '\x22' then ['\\', '\x22']
  else if c = '\\' then ['\\', '\\']
  else if c = '\x08' then ['\\', 'b']
  else if c = '\t' then ['\\', 't']
  else if c = '\n' then ['\\', 'n']
  else if c = '\x0c' then ['\\', 'f']
  else if c = '\r' then ['\\', 'r']
  else if c.toNat < 0x20 then
    ['\\', 'u', '0', '0', Nat.digitChar (c.toNat / 16), Nat.digitChar (c.toNat % 16)]
  else [c]

/-- A string between quotes. -/
def quote (s : String) : List Char :=
  '\x22' :: (s.toList.flatMap escapeChar ++ ['\x22'])

/-- The start of a line at the given level. -/
def lineBreak (level : Nat) : List Char :=
  '\n' :: List.replicate (2 * level) ' '

mutual

/-- The text of a value that stands at the given level. -/
def prettyChars (level : Nat) : Json → List Char
  | number n => Nat.toDigits 10 n
  | string s => quote s
  | array [] => ['[', ']']
  | array (j :: js) =>
    '[' :: (lineBreak (level + 1) ++ prettyChars (level + 1) j ++ prettyItems (level + 1) js ++
      lineBreak level ++ [']'])
  | object [] => ['\x7b', '\x7d']
  | object (f :: fs) =>
    '\x7b' :: (lineBreak (level + 1) ++ prettyField (level + 1) f ++ prettyFields (level + 1) fs ++
      lineBreak level ++ ['\x7d'])

/-- The elements after the first one. -/
def prettyItems (level : Nat) : List Json → List Char
  | [] => []
  | j :: js => ',' :: (lineBreak level ++ prettyChars level j ++ prettyItems level js)

/-- A field with its key. -/
def prettyField (level : Nat) : String × Json → List Char
  | (key, j) => quote key ++ [':', ' '] ++ prettyChars level j

/-- The fields after the first one. -/
def prettyFields (level : Nat) : List (String × Json) → List Char
  | [] => []
  | f :: fs => ',' :: (lineBreak level ++ prettyField level f ++ prettyFields level fs)

end

/-- The text of a value. -/
def pretty (j : Json) : String :=
  String.ofList (prettyChars 0 j)

end Json

end ModelLayout
