import Mathlib.Data.List.Basic
import ModelLayout.Json
import ModelLayout.Text.Digits

/-!
# Reading JSON

A reader of JSON texts, and what it makes of the texts that are written.  The text is cut into
tokens, and each token moves a state: a stack of the arrays and objects that are still open, or the
value once it is complete.  The reader takes every JSON text, in whatever layout, with every escape
and every form of number.

## Main definitions

* `JsonText.Value` — what a JSON text can say.
* `JsonText.token?` — the first token of a text.
* `JsonText.Frame`, `JsonText.State`, `JsonText.step` — what is open, and what a token does to it.
* `JsonText.decode?` — the value of a text.
* `Json.value` — what a written value says.

## Main results

* `JsonText.unquote_flatMap_escapeChar` — escapes are undone.
* `JsonText.number?_toDigits` — so are the digits of a number.
* `JsonText.read_prettyChars` — a written value moves the state like a single token.
* `JsonText.decode?_pretty` — a written value is read back.
-/

namespace ModelLayout
namespace JsonText

open Text (isDigitOf valueOf)

/-- What a JSON text can say. -/
inductive Value
  | null
  | boolean (b : Bool)
  /-- The number `mantissa * 10 ^ exponent`. -/
  | number (mantissa exponent : Int)
  | string (s : String)
  | array (items : List Value)
  | object (members : List (String × Value))
  deriving Inhabited

/-! ### Texts between quotes -/

/-- The character that a letter after a backslash stands for. -/
def unescape? : Char → Option Char
  | '\x22' => some '\x22'
  | '\\' => some '\\'
  | '/' => some '/'
  | 'b' => some '\x08'
  | 'f' => some '\x0c'
  | 'n' => some '\n'
  | 'r' => some '\r'
  | 't' => some '\t'
  | _ => none

/-- The number with four hexadecimal digits at the front, and what follows them. -/
def unit? : List Char → Option (Nat × List Char)
  | a :: b :: c :: d :: cs =>
    if [a, b, c, d].all (isDigitOf 16) then some (valueOf 16 [a, b, c, d], cs) else none
  | _ => none

/-- The character whose first unit is `unit`.  The second of a pair has to follow the first one, and
does not come alone. -/
def ofUnit? (unit : Nat) (cs : List Char) : Option (Char × List Char) :=
  if 0xD800 ≤ unit ∧ unit < 0xDC00 then
    match cs with
    | '\\' :: 'u' :: cs =>
      match unit? cs with
      | some (second, cs) =>
        if 0xDC00 ≤ second ∧ second < 0xE000 then
          some (Char.ofNat (0x10000 + (unit - 0xD800) * 0x400 + (second - 0xDC00)), cs)
        else none
      | none => none
    | _ => none
  else if 0xDC00 ≤ unit ∧ unit < 0xE000 then none
  else some (Char.ofNat unit, cs)

/-- The character of a quoted text at the front, which may be escaped. -/
def character? : List Char → Option (Char × List Char)
  | [] => none
  | '\\' :: 'u' :: cs => (unit? cs).bind fun r => ofUnit? r.1 r.2
  | '\\' :: c :: cs => (unescape? c).map (·, cs)
  | c :: cs => if c = '\x22' ∨ c = '\\' ∨ c.toNat < 0x20 then none else some (c, cs)

/-- The text up to the closing quote, and what follows the quote. -/
def unquote (cs : List Char) : Option (List Char × List Char) :=
  if cs.head? = some '\x22' then some ([], cs.tail)
  else
    match character? cs with
    | none => none
    | some (c, rest) =>
      if rest.length < cs.length then (unquote rest).map fun r => (c :: r.1, r.2) else none
termination_by cs.length

/-! ### Numbers -/

/-- The digits at the front, at least one, and what follows them. -/
def digits? (cs : List Char) : Option (List Char × List Char) :=
  match cs.takeWhile Char.isDigit with
  | [] => none
  | d :: ds => some (d :: ds, cs.dropWhile Char.isDigit)

/-- Digits that do not begin with a zero in front of another digit. -/
def whole? (cs : List Char) : Option (List Char × List Char) :=
  match digits? cs with
  | some ('0' :: _ :: _, _) => none
  | r => r

/-- The digits after the point; there may be none of all this. -/
def fraction? : List Char → Option (List Char × List Char)
  | '.' :: cs => digits? cs
  | cs => some ([], cs)

/-- The exponent; there may be none. -/
def exponent? : List Char → Option (Int × List Char)
  | 'e' :: cs | 'E' :: cs =>
    match cs with
    | '-' :: cs => (digits? cs).map fun r => (-Nat.ofDigitChars 10 r.1 0, r.2)
    | '+' :: cs => (digits? cs).map fun r => (Nat.ofDigitChars 10 r.1 0, r.2)
    | cs => (digits? cs).map fun r => (Nat.ofDigitChars 10 r.1 0, r.2)
  | cs => some (0, cs)

/-- A number without a sign. -/
def unsigned? (cs : List Char) : Option ((Nat × Int) × List Char) := do
  let (whole, cs) ← whole? cs
  let (fraction, cs) ← fraction? cs
  let (exponent, cs) ← exponent? cs
  return ((Nat.ofDigitChars 10 (whole ++ fraction) 0, exponent - fraction.length), cs)

/-- The number at the front of a text. -/
def number? : List Char → Option (Value × List Char)
  | '-' :: cs => (unsigned? cs).map fun r => (.number (-r.1.1) r.1.2, r.2)
  | cs => (unsigned? cs).map fun r => (.number r.1.1 r.1.2, r.2)

/-! ### Tokens -/

/-- What a text is made of. -/
inductive Token
  /-- A bracket, a brace, a colon or a comma. -/
  | mark (c : Char)
  | string (s : String)
  /-- A number or one of the three words. -/
  | atom (v : Value)

/-- The characters that are tokens by themselves. -/
def marks : List Char := ['[', ']', '\x7b', '\x7d', ':', ',']

/-- The characters that may stand between tokens. -/
def blanks : List Char := [' ', '\n', '\r', '\t']

/-- The words, and what they say. -/
def words : List (String × Value) :=
  [("null", .null), ("true", .boolean true), ("false", .boolean false)]

/-- The word at the front of a text. -/
def word? (cs : List Char) : Option (Value × List Char) :=
  (words.find? fun w => w.1.toList.isPrefixOf cs).map fun w => (w.2, cs.drop w.1.length)

/-- The token at the front of a text. -/
def token? : List Char → Option (Token × List Char)
  | [] => none
  | c :: cs =>
    if c ∈ marks then some (.mark c, cs)
    else if c = '\x22' then (unquote cs).map fun r => (.string (String.ofList r.1), r.2)
    else if c = '-' ∨ c.isDigit then (number? (c :: cs)).map fun r => (.atom r.1, r.2)
    else (word? (c :: cs)).map fun r => (.atom r.1, r.2)

/-! ### Arrays and objects -/

/-- An array or object that is still open.  What it holds so far comes last one first. -/
inductive Frame
  /-- Right after the bracket. -/
  | arrayStart
  /-- After an element. -/
  | arrayItem (items : List Value)
  /-- After a comma. -/
  | arrayComma (items : List Value)
  /-- Right after the brace. -/
  | objectStart
  /-- After a member. -/
  | objectMember (members : List (String × Value))
  /-- After a comma. -/
  | objectComma (members : List (String × Value))
  /-- After a key. -/
  | objectKey (members : List (String × Value)) (key : String)
  /-- After a colon. -/
  | objectColon (members : List (String × Value)) (key : String)

/-- How far the reading has come. -/
inductive State
  /-- What is open, the innermost first. -/
  | reading (stack : List Frame)
  | complete (v : Value)

/-- Whether a value may come next. -/
def awaitsValue : List Frame → Bool
  | [] | .arrayStart :: _ | .arrayComma _ :: _ | .objectColon _ _ :: _ => true
  | _ => false

/-- A value comes next. -/
def supply (v : Value) : List Frame → Option State
  | [] => some (.complete v)
  | .arrayStart :: stack => some (.reading (.arrayItem [v] :: stack))
  | .arrayComma items :: stack => some (.reading (.arrayItem (v :: items) :: stack))
  | .objectColon members key :: stack =>
    some (.reading (.objectMember ((key, v) :: members) :: stack))
  | _ => none

/-- A text comes next: it is a key or a value. -/
def supplyText (s : String) : List Frame → Option State
  | .objectStart :: stack => some (.reading (.objectKey [] s :: stack))
  | .objectComma members :: stack => some (.reading (.objectKey members s :: stack))
  | stack => supply (.string s) stack

/-- A mark comes next. -/
def supplyMark (c : Char) (stack : List Frame) : Option State :=
  match c, stack with
  | '[', stack => if awaitsValue stack then some (.reading (.arrayStart :: stack)) else none
  | ']', .arrayStart :: stack => supply (.array []) stack
  | ']', .arrayItem items :: stack => supply (.array items.reverse) stack
  | ',', .arrayItem items :: stack => some (.reading (.arrayComma items :: stack))
  | '\x7b', stack => if awaitsValue stack then some (.reading (.objectStart :: stack)) else none
  | '\x7d', .objectStart :: stack => supply (.object []) stack
  | '\x7d', .objectMember members :: stack => supply (.object members.reverse) stack
  | ',', .objectMember members :: stack => some (.reading (.objectComma members :: stack))
  | ':', .objectKey members key :: stack => some (.reading (.objectColon members key :: stack))
  | _, _ => none

/-- What a token does.  Nothing may come after a complete value. -/
def step : State → Token → Option State
  | .complete _, _ => none
  | .reading stack, .mark c => supplyMark c stack
  | .reading stack, .string s => supplyText s stack
  | .reading stack, .atom v => supply v stack

/-- What the tokens of a text do, one after the other. -/
def read (state : State) (cs : List Char) : Option State :=
  if (cs.dropWhile (· ∈ blanks)).isEmpty then some state
  else
    match token? (cs.dropWhile (· ∈ blanks)) with
    | none => none
    | some (t, rest) =>
      if rest.length < (cs.dropWhile (· ∈ blanks)).length then
        (step state t).bind fun next => read next rest
      else none
termination_by cs.length
decreasing_by
  have hblanks := (List.dropWhile_sublist (l := cs) (· ∈ blanks)).length_le
  omega

/-- The value of a text, if it is a JSON text. -/
def decode? (text : String) : Option Value :=
  match read (.reading []) text.toList with
  | some (.complete v) => some v
  | _ => none

/-! ### Texts are read back -/

theorem digitValue_digitChar : ∀ d < 16, Text.digitValue (Nat.digitChar d) = d := by decide

/-- The escape of a control character gives its code in four digits. -/
theorem unit?_control {n : Nat} (hn : n < 0x20) (rest : List Char) :
    unit? ('0' :: '0' :: Nat.digitChar (n / 16) :: Nat.digitChar (n % 16) :: rest) =
      some (n, rest) := by
  have hhigh := digitValue_digitChar (n / 16) (by omega)
  have hlow := digitValue_digitChar (n % 16) (by omega)
  have hzero : Text.digitValue '0' = 0 := by decide
  have hvalue : n / 16 * 16 + n % 16 = n := by omega
  have hlt : n / 16 < 16 := by omega
  have hmod : n % 16 < 16 := by omega
  simp [unit?, isDigitOf, valueOf, hhigh, hlow, hzero, hvalue, hlt, hmod]

theorem ofUnit?_of_lt {n : Nat} (hn : n < 0xD800) (rest : List Char) :
    ofUnit? n rest = some (Char.ofNat n, rest) := by
  unfold ofUnit?
  rw [if_neg (by omega), if_neg (by omega)]

/-- What is written for a character inside of quotes is read as this character. -/
theorem character?_escapeChar (c : Char) (rest : List Char) :
    character? (Json.escapeChar c ++ rest) = some (c, rest) := by
  unfold Json.escapeChar
  -- the characters that have an escape of their own, one after the other
  iterate 7
    split
    · subst_vars
      rfl
  split
  · rename_i hcontrol
    simp only [List.cons_append, List.nil_append, character?]
    rw [unit?_control hcontrol, Option.bind_some, ofUnit?_of_lt (by omega), Char.ofNat_toNat]
  · simp_all [character?]

/-- A quote is no character of a quoted text. -/
theorem exists_cons_of_character? {cs : List Char} {r : Char × List Char}
    (h : character? cs = some r) : ∃ d ds, cs = d :: ds ∧ d ≠ '\x22' := by
  cases cs with
  | nil => cases h
  | cons d ds =>
    refine ⟨d, ds, rfl, ?_⟩
    rintro rfl
    simp [character?] at h

theorem unquote_of_character? {cs rest : List Char} {c : Char}
    (h : character? cs = some (c, rest)) (hlt : rest.length < cs.length) :
    unquote cs = (unquote rest).map fun r => (c :: r.1, r.2) := by
  obtain ⟨d, ds, rfl, hd⟩ := exists_cons_of_character? h
  rw [unquote, if_neg (by simpa using hd), h]
  exact if_pos hlt

theorem unquote_flatMap_escapeChar (text rest : List Char) :
    unquote (text.flatMap Json.escapeChar ++ '\x22' :: rest) = some (text, rest) := by
  induction text with
  | nil =>
    rw [unquote]
    rfl
  | cons c text ih =>
    obtain ⟨d, ds, hcons, -⟩ := exists_cons_of_character? (character?_escapeChar c [])
    have hne : 0 < (Json.escapeChar c).length := by
      rw [← List.append_nil (Json.escapeChar c), hcons]
      exact Nat.succ_pos _
    rw [List.flatMap_cons, List.append_assoc,
      unquote_of_character? (character?_escapeChar c _) (by simp; omega), ih]
    rfl

/-! ### Numbers are read back -/

/-- Nothing at the front of `rest` could go on with a number. -/
def EndsNumber (rest : List Char) : Prop :=
  ∀ c ∈ rest.head?, c.isDigit = false ∧ c ≠ '.' ∧ c ≠ 'e' ∧ c ≠ 'E'

theorem endsNumber_nil : EndsNumber [] := by
  intro c hc
  cases hc

theorem endsNumber_cons {c : Char} (rest : List Char)
    (hc : c.isDigit = false ∧ c ≠ '.' ∧ c ≠ 'e' ∧ c ≠ 'E') : EndsNumber (c :: rest) := by
  intro d hd
  rw [List.head?_cons, Option.mem_some_iff] at hd
  exact hd ▸ hc

theorem digits?_append {ds rest : List Char} (hne : ds ≠ []) (hds : ∀ c ∈ ds, c.isDigit = true)
    (hrest : EndsNumber rest) : digits? (ds ++ rest) = some (ds, rest) := by
  have htake : rest.takeWhile Char.isDigit = [] ∧ rest.dropWhile Char.isDigit = rest := by
    cases rest with
    | nil => exact ⟨rfl, rfl⟩
    | cons c rest => simp [(hrest c rfl).1]
  rw [digits?, List.takeWhile_append_of_pos hds, List.dropWhile_append_of_pos hds, htake.1, htake.2,
    List.append_nil]
  cases ds with
  | nil => exact absurd rfl hne
  | cons d ds => rfl

/-- Only zero is written with a zero in front. -/
theorem eq_zero_of_toDigits {n : Nat} {ds : List Char} (h : Nat.toDigits 10 n = '0' :: ds) :
    n = 0 := by
  induction n using Nat.strongRecOn generalizing ds with
  | _ n ih =>
    by_cases hn : n < 10
    · rw [Nat.toDigits_of_lt_base hn, List.cons.injEq] at h
      exact Nat.digitChar_eq_zero.1 h.1
    · rw [Nat.toDigits_of_base_le (by decide) (by omega)] at h
      cases hhead : Nat.toDigits 10 (n / 10) with
      | nil => exact absurd hhead Nat.toDigits_ne_nil
      | cons d ds' =>
        rw [hhead, List.cons_append, List.cons.injEq] at h
        have hzero := ih (n / 10) (by omega) (h.1 ▸ hhead)
        omega

theorem exists_toDigits_eq_cons (n : Nat) :
    ∃ d ds, Nat.toDigits 10 n = d :: ds ∧ d.isDigit = true := by
  cases hdigits : Nat.toDigits 10 n with
  | nil => exact absurd hdigits Nat.toDigits_ne_nil
  | cons d ds =>
    have hmem : d ∈ Nat.toDigits 10 n := hdigits ▸ List.mem_cons_self
    exact ⟨d, ds, rfl, Nat.isDigit_of_mem_toDigits (by decide) (by decide) hmem⟩

theorem whole?_toDigits (n : Nat) {rest : List Char} (hrest : EndsNumber rest) :
    whole? (Nat.toDigits 10 n ++ rest) = some (Nat.toDigits 10 n, rest) := by
  have hdigits : ∀ c ∈ Nat.toDigits 10 n, c.isDigit = true :=
    fun c hc => Nat.isDigit_of_mem_toDigits (by decide) (by decide) hc
  rw [whole?, digits?_append Nat.toDigits_ne_nil hdigits hrest]
  split
  · rename_i hzero
    simp only [Option.some.injEq, Prod.mk.injEq] at hzero
    have hn := eq_zero_of_toDigits hzero.1
    rw [hn, Nat.toDigits_zero] at hzero
    simp at hzero
  · rfl

theorem fraction?_of_endsNumber {rest : List Char} (hrest : EndsNumber rest) :
    fraction? rest = some ([], rest) := by
  unfold fraction?
  split
  · exact absurd rfl (hrest '.' rfl).2.1
  · rfl

theorem exponent?_of_endsNumber {rest : List Char} (hrest : EndsNumber rest) :
    exponent? rest = some (0, rest) := by
  unfold exponent?
  split
  · exact absurd rfl (hrest 'e' rfl).2.2.1
  · exact absurd rfl (hrest 'E' rfl).2.2.2
  · rfl

/-- The digits of a number are read as this number. -/
theorem number?_toDigits (n : Nat) {rest : List Char} (hrest : EndsNumber rest) :
    number? (Nat.toDigits 10 n ++ rest) = some (.number n 0, rest) := by
  have hunsigned : unsigned? (Nat.toDigits 10 n ++ rest) = some ((n, 0), rest) := by
    simp [unsigned?, whole?_toDigits n hrest, fraction?_of_endsNumber hrest,
      exponent?_of_endsNumber hrest]
  obtain ⟨d, ds, hcons, hd⟩ := exists_toDigits_eq_cons n
  have hminus : d ≠ '-' := by
    rintro rfl
    cases hd
  rw [hcons, List.cons_append] at hunsigned ⊢
  simp [number?, hminus, hunsigned]

/-! ### Tokens are read back -/

theorem not_mem_of_isDigit {c : Char} (hc : c.isDigit = true) {cs : List Char}
    (hcs : cs.any Char.isDigit = false) : c ∉ cs := by
  intro hmem
  exact List.any_eq_false.1 hcs c hmem hc

section

variable (state : State)

theorem read_nil : read state [] = some state := by
  rw [read]
  rfl

theorem read_blank {c : Char} (hc : c ∈ blanks) (cs : List Char) :
    read state (c :: cs) = read state cs := by
  rw [read, read, List.dropWhile_cons_of_pos (by simpa using hc)]

theorem read_lineBreak (level : Nat) (cs : List Char) :
    read state (Json.lineBreak level ++ cs) = read state cs := by
  have hspaces : ∀ n, read state (List.replicate n ' ' ++ cs) = read state cs := by
    intro n
    induction n with
    | zero => rfl
    | succ n ih => rw [List.replicate_succ, List.cons_append, read_blank state (by decide), ih]
  rw [Json.lineBreak, List.cons_append, read_blank state (by decide), hspaces]

/-- A token at the front of a text moves the state. -/
theorem read_of_token? {c : Char} {cs rest : List Char} {t : Token} (hc : c ∉ blanks)
    (h : token? (c :: cs) = some (t, rest)) (hlt : rest.length < (c :: cs).length) :
    read state (c :: cs) = (step state t).bind fun next => read next rest := by
  have hdrop : (c :: cs).dropWhile (· ∈ blanks) = c :: cs :=
    List.dropWhile_cons_of_neg (by simpa using hc)
  rw [read, hdrop, if_neg (by simp), h]
  exact if_pos hlt

theorem read_mark {c : Char} (hc : c ∈ marks) (cs : List Char) :
    read state (c :: cs) = (step state (.mark c)).bind fun next => read next cs := by
  have hblanks : marks.all (fun c => decide (c ∉ blanks)) = true := by decide
  have hblank : c ∉ blanks := of_decide_eq_true (List.all_eq_true.1 hblanks c hc)
  exact read_of_token? state hblank (by rw [token?, if_pos hc]) (Nat.lt_succ_self _)

theorem read_quote (s : String) (rest : List Char) :
    read state (Json.quote s ++ rest) = (step state (.string s)).bind fun next => read next rest := by
  have htoken : token? (Json.quote s ++ rest) = some (.string s, rest) := by
    rw [Json.quote, List.cons_append, List.append_assoc, token?, if_neg (by decide), if_pos rfl,
      List.singleton_append, unquote_flatMap_escapeChar, Option.map_some, String.ofList_toList]
  rw [Json.quote, List.cons_append] at htoken ⊢
  exact read_of_token? state (by decide) htoken (by simp; omega)

theorem read_toDigits (n : Nat) {rest : List Char} (hrest : EndsNumber rest) :
    read state (Nat.toDigits 10 n ++ rest) =
      (step state (.atom (.number n 0))).bind fun next => read next rest := by
  obtain ⟨d, ds, hcons, hd⟩ := exists_toDigits_eq_cons n
  have hmark : d ∉ marks := not_mem_of_isDigit hd (by decide)
  have hquotes : d ∉ ['\x22'] := not_mem_of_isDigit hd (by decide)
  have hquote : d ≠ '\x22' := List.ne_of_not_mem_cons hquotes
  have hnumber := number?_toDigits n hrest
  rw [hcons, List.cons_append] at hnumber ⊢
  have htoken : token? (d :: (ds ++ rest)) = some (.atom (.number n 0), rest) := by
    rw [token?, if_neg hmark, if_neg hquote, if_pos (Or.inr hd), hnumber]
    rfl
  have hlength : rest.length < (d :: (ds ++ rest)).length := by
    rw [List.length_cons, List.length_append]
    omega
  exact read_of_token? state (not_mem_of_isDigit hd (by decide)) htoken hlength

end

end JsonText

/-! ### Values are read back -/

mutual

/-- What a written value says. -/
def Json.value : Json → JsonText.Value
  | .number n => .number n 0
  | .string s => .string s
  | .array items => .array (Json.values items)
  | .object fields => .object (Json.members fields)

/-- What the elements of an array say. -/
def Json.values : List Json → List JsonText.Value
  | [] => []
  | j :: js => j.value :: Json.values js

/-- What a field says. -/
def Json.member : String × Json → String × JsonText.Value
  | (key, j) => (key, j.value)

/-- What the fields of an object say. -/
def Json.members : List (String × Json) → List (String × JsonText.Value)
  | [] => []
  | f :: fs => Json.member f :: Json.members fs

end

namespace JsonText

open Json

/-- What follows a value inside of an array or object begins a line or is a comma. -/
theorem endsNumber_lineBreak (level : Nat) (rest : List Char) :
    EndsNumber (lineBreak level ++ rest) :=
  endsNumber_cons _ (by decide)

theorem endsNumber_prettyItems (level : Nat) (js : List Json) {rest : List Char}
    (hrest : EndsNumber rest) : EndsNumber (prettyItems level js ++ rest) := by
  cases js with
  | nil => exact hrest
  | cons j js =>
    rw [prettyItems, List.cons_append]
    exact endsNumber_cons _ (by decide)

theorem endsNumber_prettyFields (level : Nat) (fs : List (String × Json)) {rest : List Char}
    (hrest : EndsNumber rest) : EndsNumber (prettyFields level fs ++ rest) := by
  cases fs with
  | nil => exact hrest
  | cons f fs =>
    rw [prettyFields, List.cons_append]
    exact endsNumber_cons _ (by decide)

/-- Where a value may come, a text is one. -/
theorem supplyText_of_awaitsValue {stack : List Frame} (h : awaitsValue stack = true) (s : String) :
    supplyText s stack = supply (.string s) stack := by
  unfold supplyText
  split
  · cases h
  · cases h
  · rfl

theorem supplyMark_bracket {stack : List Frame} (h : awaitsValue stack = true) :
    supplyMark '[' stack = some (.reading (.arrayStart :: stack)) := by
  rw [supplyMark, if_pos h]

theorem supplyMark_brace {stack : List Frame} (h : awaitsValue stack = true) :
    supplyMark '\x7b' stack = some (.reading (.objectStart :: stack)) := by
  rw [supplyMark, if_pos h]

mutual

/-- A written value moves the state like a single token. -/
theorem read_prettyChars : ∀ (j : Json) (level : Nat) (stack : List Frame) (rest : List Char),
    awaitsValue stack = true → EndsNumber rest →
    read (.reading stack) (prettyChars level j ++ rest) =
      (supply j.value stack).bind fun next => read next rest
  | .number n, level, stack, rest, _, hrest => by
    rw [prettyChars, read_toDigits _ n hrest, step, Json.value]
  | .string s, level, stack, rest, hstack, _ => by
    rw [prettyChars, read_quote, step, supplyText_of_awaitsValue hstack, Json.value]
  | .array [], level, stack, rest, hstack, _ => by
    rw [prettyChars, List.cons_append, read_mark _ (by decide), step, supplyMark_bracket hstack,
      Option.bind_some, List.singleton_append, read_mark _ (by decide)]
    rfl
  | .array (j :: js), level, stack, rest, hstack, _ => by
    rw [prettyChars, List.cons_append, read_mark _ (by decide), step, supplyMark_bracket hstack,
      Option.bind_some]
    simp only [List.append_assoc]
    rw [read_lineBreak, read_prettyChars j (level + 1) (.arrayStart :: stack) _ rfl
        (endsNumber_prettyItems _ _ (endsNumber_lineBreak _ _)), supply, Option.bind_some,
      read_prettyItems js _ _ _ _ (endsNumber_lineBreak _ _), read_lineBreak,
      List.singleton_append, read_mark _ (by decide), step, supplyMark, List.reverse_append,
      List.reverse_reverse, Json.value, Json.values]
    rfl
  | .object [], level, stack, rest, hstack, _ => by
    rw [prettyChars, List.cons_append, read_mark _ (by decide), step, supplyMark_brace hstack,
      Option.bind_some, List.singleton_append, read_mark _ (by decide)]
    rfl
  | .object (f :: fs), level, stack, rest, hstack, _ => by
    rw [prettyChars, List.cons_append, read_mark _ (by decide), step, supplyMark_brace hstack,
      Option.bind_some]
    simp only [List.append_assoc]
    rw [read_lineBreak, read_prettyField f (level + 1) .objectStart [] stack _ (fun _ => rfl)
        (endsNumber_prettyFields _ _ (endsNumber_lineBreak _ _)),
      read_prettyFields fs _ _ _ _ (endsNumber_lineBreak _ _), read_lineBreak,
      List.singleton_append, read_mark _ (by decide), step, supplyMark, List.reverse_append,
      List.reverse_reverse, Json.value, Json.members]
    rfl

/-- The elements after the first one are added to the innermost array. -/
theorem read_prettyItems : ∀ (js : List Json) (level : Nat) (items : List Value)
    (stack : List Frame) (rest : List Char), EndsNumber rest →
    read (.reading (.arrayItem items :: stack)) (prettyItems level js ++ rest) =
      read (.reading (.arrayItem ((values js).reverse ++ items) :: stack)) rest
  | [], level, items, stack, rest, _ => by
    rw [prettyItems, Json.values]
    rfl
  | j :: js, level, items, stack, rest, hrest => by
    rw [prettyItems, List.cons_append, read_mark _ (by decide), step, supplyMark, Option.bind_some]
    simp only [List.append_assoc]
    rw [read_lineBreak, read_prettyChars j level (.arrayComma items :: stack) _ rfl
        (endsNumber_prettyItems _ _ hrest), supply, Option.bind_some,
      read_prettyItems js level _ stack rest hrest, Json.values, List.reverse_cons,
      List.append_assoc, List.singleton_append]

/-- A field is added to the innermost object, if a key may come. -/
theorem read_prettyField : ∀ (f : String × Json) (level : Nat) (frame : Frame)
    (members : List (String × Value)) (stack : List Frame) (rest : List Char),
    (∀ key, supplyText key (frame :: stack) = some (.reading (.objectKey members key :: stack))) →
    EndsNumber rest →
    read (.reading (frame :: stack)) (prettyField level f ++ rest) =
      read (.reading (.objectMember (member f :: members) :: stack)) rest
  | (key, j), level, frame, members, stack, rest, hframe, hrest => by
    rw [prettyField]
    simp only [List.append_assoc]
    rw [read_quote, step, hframe, Option.bind_some, List.cons_append, read_mark _ (by decide), step,
      supplyMark, Option.bind_some, List.singleton_append, read_blank _ (by decide),
      read_prettyChars j level (.objectColon members key :: stack) rest rfl hrest, supply,
      Option.bind_some, Json.member]

/-- The fields after the first one are added to the innermost object. -/
theorem read_prettyFields : ∀ (fs : List (String × Json)) (level : Nat)
    (before : List (String × Value)) (stack : List Frame) (rest : List Char), EndsNumber rest →
    read (.reading (.objectMember before :: stack)) (prettyFields level fs ++ rest) =
      read (.reading (.objectMember ((members fs).reverse ++ before) :: stack)) rest
  | [], level, before, stack, rest, _ => by
    rw [prettyFields, Json.members]
    rfl
  | f :: fs, level, before, stack, rest, hrest => by
    rw [prettyFields, List.cons_append, read_mark _ (by decide), step, supplyMark, Option.bind_some]
    simp only [List.append_assoc]
    rw [read_lineBreak, read_prettyField f level (.objectComma before) before stack _ (fun _ => rfl)
        (endsNumber_prettyFields _ _ hrest), read_prettyFields fs level _ stack rest hrest,
      Json.members, List.reverse_cons, List.append_assoc, List.singleton_append]

end

/-- The text of a value is read as this value. -/
theorem decode?_pretty (j : Json) : decode? j.pretty = some j.value := by
  have hread := read_prettyChars j 0 [] [] rfl endsNumber_nil
  rw [List.append_nil, supply, Option.bind_some, read_nil] at hread
  rw [decode?, Json.pretty, String.toList_ofList, hread]

-- other layouts and other spellings of numbers are read as well, and not every text is read
example : decode? "[ -2.5e+3,true ]" = some (.array [.number (-25) 2, .boolean true]) := by cbv

example : decode? "[1,]" = none := by cbv

end JsonText
end ModelLayout
