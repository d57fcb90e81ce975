import ModelLayout.Shell.Toml.Quoted
import ModelLayout.Shell.Toml.Value

/-!
# Numbers, truth values, dates and times

* `Reader.integer` — integers in base ten, sixteen, eight and two.
* `Reader.decimal` — numbers with a fraction or an exponent.
* `Reader.boolean` — `true` and `false`.
* `Reader.datetime` — dates and times, alone or together.
* `Reader.scalar` — all of these and the quoted texts.

Numbers that no machine number can hold are refused: integers of more than 128 bits, and
decimals that a double could only round to infinity.
-/

namespace ModelLayout
namespace Toml

open Text (isDigitOf valueOf)

/-- An integer of at most 128 bits, signed or not. -/
def fitsInteger (n : Int) : Bool :=
  -(Int.pow 2 127) ≤ n && n < Int.pow 2 128

/-- The least number that a double rounds to infinity. -/
def doubleBound : Nat := Nat.pow 2 1024 - Nat.pow 2 970

/-- Whether the number with the given decimal digits, moved by `exponent` places, is one that a
double can hold.  Powers of ten are only formed when they are small. -/
def fitsDouble (digits : List Char) (exponent : Int) : Bool :=
  let n := valueOf 10 digits
  match exponent with
  | .ofNat e => n == 0 || (e ≤ 400 && n * Nat.pow 10 e < doubleBound)
  | .negSucc e => digits.length ≤ e + 1 || n < doubleBound * Nat.pow 10 (e + 1)

/-- The number of days of a month. -/
def daysInMonth (year month : Nat) : Nat :=
  if month == 2 then
    if year % 4 == 0 && (year % 100 != 0 || year % 400 == 0) then 29 else 28
  else if month == 4 || month == 6 || month == 9 || month == 11 then 30
  else 31

namespace Reader

/-- A sign, if there is one; `true` for a minus. -/
def sign : Reader Bool :=
  (char '-' *> pure true) <|> (char '+' *> pure false) <|> pure false

/-- The digits of a decimal integer: no zero in front of another digit. -/
def decimalDigits : Reader (List Char) := do
  let ds ← digits 10
  ensure (ds.length == 1 || ds.head? != some '0')
  return ds

/-- An integer in a base other than ten, after a mark such as `0x`. -/
def markedInteger (mark : String) (base : Nat) : Reader Int := do
  word mark
  return Int.ofNat (valueOf base (← digits base))

/-- An integer in base ten. -/
def decimalInteger : Reader Int := do
  let negative ← sign
  let n := Int.ofNat (valueOf 10 (← decimalDigits))
  return if negative then -n else n

/-- An integer. -/
def integer : Reader Int := do
  let n ← markedInteger "0x" 16 <|> markedInteger "0o" 8 <|> markedInteger "0b" 2 <|> decimalInteger
  ensure (fitsInteger n)
  return n

/-- The exponent of a decimal; its digits may start with zeros. -/
def exponent : Reader Int := do
  char 'e' <|> char 'E'
  let negative ← sign
  let n := Int.ofNat (valueOf 10 (← digits 10))
  return if negative then -n else n

/-- A decimal with a fraction, an exponent or both. -/
def finiteDecimal : Reader Decimal := do
  let negative ← sign
  let whole ← decimalDigits
  let fraction ← maybe (char '.' *> digits 10)
  let power ← maybe exponent
  ensure (fraction.isSome || power.isSome)
  let behind := fraction.getD []
  let ds := whole ++ behind
  let shift := power.getD 0 - Int.ofNat behind.length
  ensure (fitsDouble ds shift)
  return .finite negative (valueOf 10 ds) shift

/-- A decimal. -/
def decimal : Reader Decimal :=
  finiteDecimal <|>
    (do
      let negative ← sign
      (word "inf" *> pure (.infinite negative)) <|> (word "nan" *> pure .nan))

/-- A truth value. -/
def boolean : Reader Bool :=
  (word "true" *> pure true) <|> (word "false" *> pure false)

/-- A number of two digits that is at most `bound`. -/
def twoDigits (bound : Nat) : Reader Nat := do
  let n ← fixed 2
  ensure (n ≤ bound)
  return n

/-- A day of the calendar. -/
def date : Reader Date := do
  let year ← fixed 4
  char '-'
  let month ← twoDigits 12
  char '-'
  let day ← fixed 2
  ensure (1 ≤ month && 1 ≤ day && day ≤ daysInMonth year month)
  return { year, month, day }

/-- A fraction of a second in nanoseconds; digits beyond the ninth do not count. -/
def nanoseconds : Reader Nat := do
  char '.'
  let ds ← many1 (satisfy (isDigitOf 10))
  return valueOf 10 ((ds ++ List.replicate 9 '0').take 9)

/-- A time of the day.  The seconds may be missing. -/
def time : Reader Time := do
  let hour ← twoDigits 23
  char ':'
  let minute ← twoDigits 59
  let seconds ← maybe (do
    char ':'
    let second ← twoDigits 60
    return (second, ← maybe nanoseconds))
  return { hour, minute, second := seconds.map (·.1), nanosecond := seconds.bind (·.2) }

/-- The distance to universal time. -/
def offset : Reader Offset :=
  ((char 'Z' <|> char 'z') *> pure .utc) <|>
    (do
      let ahead ← (char '+' *> pure true) <|> (char '-' *> pure false)
      let hour ← twoDigits 23
      char ':'
      let minute ← twoDigits 59
      return .minutes ahead (hour * 60 + minute))

/-- A date, a time or both. -/
def datetime : Reader Datetime :=
  (do
    let day ← date
    let rest ← maybe (do
      let _ ← satisfy (fun c => c == 'T' || c == 't' || c == ' ')
      let clock ← time
      return (clock, ← maybe offset))
    return { date := some day, time := rest.map (·.1), offset := rest.bind (·.2) }) <|>
  (do
    let clock ← time
    return { date := none, time := some clock, offset := none })

/-- A quoted text of any kind. -/
def quoted : Reader String :=
  multilineBasic <|> multilineLiteral <|> basic <|> literal

/-- A value that has no parts. -/
def scalar : Reader Value :=
  (Value.string <$> quoted) <|> (Value.boolean <$> boolean) <|> (Value.datetime <$> datetime) <|>
    (Value.decimal <$> decimal) <|> (Value.integer <$> integer)

end Reader
end Toml
end ModelLayout
