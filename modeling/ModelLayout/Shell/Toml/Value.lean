/-!
# TOML values

The values of the configuration language TOML, version 1.1.

## Main definitions

* `Toml.Date`, `Toml.Time`, `Toml.Offset`, `Toml.Datetime` — dates and times; any part may be
  missing, but not all.
* `Toml.Decimal` — the numbers with a fraction or an exponent.
* `Toml.Origin` — how a table came to be, which decides what may be added to it.
* `Toml.Value` — the values.
-/

namespace ModelLayout
namespace Toml

/-- A day of the calendar. -/
structure Date where
  year : Nat
  month : Nat
  day : Nat
  deriving DecidableEq, Repr, Inhabited

/-- A time of the day. -/
structure Time where
  hour : Nat
  minute : Nat
  second : Option Nat
  nanosecond : Option Nat
  deriving DecidableEq, Repr, Inhabited

/-- The distance to universal time. -/
inductive Offset
  | utc
  /-- So many minutes before (`ahead = false`) or after universal time. -/
  | minutes (ahead : Bool) (count : Nat)
  deriving DecidableEq, Repr, Inhabited

/-- A date, a time, or both; a point in time if the offset is known. -/
structure Datetime where
  date : Option Date
  time : Option Time
  offset : Option Offset
  deriving DecidableEq, Repr, Inhabited

/-- A number that is written with a fraction or an exponent: `digits * 10 ^ exponent`, or one of
the two special values. -/
inductive Decimal
  | finite (negative : Bool) (digits : Nat) (exponent : Int)
  | infinite (negative : Bool)
  | nan
  deriving DecidableEq, Repr, Inhabited

/-- How a table came to be. -/
inductive Origin
  /-- Its own header. -/
  | header
  /-- The header of a table below it, and nothing else. -/
  | path
  /-- A dotted key, first or after the header of a table below it. -/
  | dotted
  /-- Braces; such a table is complete. -/
  | inline
  deriving DecidableEq, Repr, Inhabited

/-- A value. -/
inductive Value
  | string (s : String)
  | integer (n : Int)
  | decimal (d : Decimal)
  | boolean (b : Bool)
  | datetime (d : Datetime)
  | array (items : List Value)
  | table (origin : Origin) (entries : List (String × Value))
  /-- An array of tables, one for each header in double brackets. -/
  | tables (elements : List (List (String × Value)))
  deriving Repr, Inhabited

/-- The contents of a table: keys with their values. -/
abbrev Entries := List (String × Value)

/-! ### The text of dates and times -/

/-- The last `width` decimal digits of a number. -/
def padded (width n : Nat) : String :=
  let digits := Nat.toDigits 10 n
  String.ofList (List.replicate (width - digits.length) '0' ++ digits)

/-- A date as `1979-05-27`. -/
def Date.text (d : Date) : String :=
  padded 4 d.year ++ "-" ++ padded 2 d.month ++ "-" ++ padded 2 d.day

/-- The digits of a fraction of a second, without zeros at the end. -/
def fractionText (nanosecond : Nat) : String :=
  match ((padded 9 nanosecond).toList.reverse.dropWhile (· == '0')).reverse with
  | [] => "0"
  | digits => String.ofList digits

/-- A time as `07:32:00.5`; seconds only if they are known. -/
def Time.text (t : Time) : String :=
  padded 2 t.hour ++ ":" ++ padded 2 t.minute ++
    (match t.second with
    | none => ""
    | some s => ":" ++ padded 2 s) ++
    (match t.nanosecond with
    | none => ""
    | some n => "." ++ fractionText n)

/-- An offset as `Z` or `+01:00`. -/
def Offset.text : Offset → String
  | utc => "Z"
  | minutes ahead count =>
    (if ahead || count == 0 then "+" else "-") ++ padded 2 (count / 60) ++ ":" ++
      padded 2 (count % 60)

/-- A date and time as `1979-05-27T07:32:00Z`, as much of it as is known. -/
def Datetime.text (d : Datetime) : String :=
  let date := (d.date.map Date.text).getD ""
  let time := (d.time.map Time.text).getD ""
  let between := if d.date.isSome && d.time.isSome then "T" else ""
  date ++ between ++ time ++ (d.offset.map Offset.text).getD ""

end Toml
end ModelLayout
