import LengthCalc.Text.Digit

namespace LengthCalc

/-!
# Dates and times of a setting file

A date, a time of day, or both with an optional distance from universal time.
The value of a setting that is written so is its text in one standard form.
-/

namespace Toml

/-- A day of the calendar. -/
structure Date where
  year : Nat
  month : Nat
  day : Nat
  deriving Repr, DecidableEq

/-- A time of day; the fraction of a second is a list of digits. -/
structure DayTime where
  hour : Nat
  minute : Nat
  second : Nat
  fraction : List Char
  deriving Repr, DecidableEq

/-- The distance of a time from universal time. -/
inductive Zone where
  | universal
  | shifted (isWest : Bool) (hours minutes : Nat)
  deriving Repr, DecidableEq

/-- A date, a time, or a date with a time and perhaps a zone. -/
inductive DateTime where
  | ofDate (date : Date)
  | ofTime (time : DayTime)
  | ofBoth (date : Date) (time : DayTime) (zone : Option Zone)
  deriving Repr, DecidableEq

/-- Read a number of two digits up to a bound. -/
def readTwo? (bound : Nat) : List Char → Option (Nat × List Char)
  | high :: low :: rest =>
      match natural? [high, low] with
      | none => none
      | some number => if number ≤ bound then some (number, rest) else none
  | _ => none

/-- What is behind a sign that has to be in front. -/
def afterSign? (sign : Char) : List Char → Option (List Char)
  | [] => none
  | character :: rest => if character = sign then some rest else none

namespace Date

/-- Whether a year has a leap day. -/
def isLeap (year : Nat) : Bool :=
  year % 4 = 0 && (year % 100 != 0 || year % 400 = 0)

/-- The number of days of a month. -/
def monthLength (year month : Nat) : Nat :=
  if month = 2 then
    if isLeap year then 29 else 28
  else if month = 4 ∨ month = 6 ∨ month = 9 ∨ month = 11 then
    30
  else
    31

/-- Read a date. -/
def read? (characters : List Char) : Option (Date × List Char) := do
  let year ←
    if (characters.take 4).length = 4 then
      natural? (characters.take 4)
    else
      none
  let rest ← afterSign? '-' (characters.drop 4)
  let (month, rest) ← readTwo? 12 rest
  let rest ← afterSign? '-' rest
  let (day, rest) ← readTwo? 31 rest
  if 1 ≤ month && 1 ≤ day && day ≤ monthLength year month then
    some (⟨year, month, day⟩, rest)
  else
    none

end Date

namespace DayTime

/-- Fraction digits without the zeros at their end. -/
def withoutZeros (digits : List Char) : List Char :=
  (digits.reverse.dropWhile fun digit => digit = '0').reverse

/-- The number of fraction digits that count. -/
def places : Nat :=
  9

/-- Read the fraction of a second, if there is one; further digits do not count. -/
def readFraction? : List Char → Option (List Char × List Char)
  | '.' :: rest =>
      match rest.takeWhile Char.isDigit with
      | [] => none
      | digits =>
          some (withoutZeros (digits.take places), rest.dropWhile Char.isDigit)
  | rest => some ([], rest)

/-- Read a time of day. -/
def read? (characters : List Char) : Option (DayTime × List Char) := do
  let (hour, rest) ← readTwo? 23 characters
  let rest ← afterSign? ':' rest
  let (minute, rest) ← readTwo? 59 rest
  let rest ← afterSign? ':' rest
  let (second, rest) ← readTwo? 60 rest
  let (fraction, rest) ← readFraction? rest
  return (⟨hour, minute, second, fraction⟩, rest)

end DayTime

namespace Zone

/-- The zone at a distance, which is never a negative zero. -/
def ofDistance (isWest : Bool) (hours minutes : Nat) : Zone :=
  .shifted (isWest && (hours != 0 || minutes != 0)) hours minutes

/-- Read the hours and minutes of a distance. -/
def readDistance? (isWest : Bool) (characters : List Char) :
    Option (Zone × List Char) := do
  let (hours, rest) ← readTwo? 23 characters
  let rest ← afterSign? ':' rest
  let (minutes, rest) ← readTwo? 59 rest
  return (ofDistance isWest hours minutes, rest)

/-- The zone of a nonempty text. -/
def ofChars? : List Char → Option Zone
  | ['Z'] => some .universal
  | ['z'] => some .universal
  | '+' :: rest =>
      match readDistance? false rest with
      | some (zone, []) => some zone
      | _ => none
  | '-' :: rest =>
      match readDistance? true rest with
      | some (zone, []) => some zone
      | _ => none
  | _ => none

end Zone

namespace DateTime

/-- The date with the time that follows it. -/
def withTime? (date : Date) (characters : List Char) : Option DateTime :=
  match DayTime.read? characters with
  | none => none
  | some (time, []) => some (.ofBoth date time none)
  | some (time, rest) =>
      (Zone.ofChars? rest).map fun zone => .ofBoth date time (some zone)

/-- The date or time that a word stands for. -/
def ofWord? (word : List Char) : Option DateTime :=
  match Date.read? word with
  | some (date, []) => some (.ofDate date)
  | some (date, 'T' :: rest) => withTime? date rest
  | some (date, 't' :: rest) => withTime? date rest
  | some _ => none
  | none =>
      match DayTime.read? word with
      | some (time, []) => some (.ofTime time)
      | _ => none

end DateTime

/-- A number with zeros in front up to a width. -/
def padded (width number : Nat) : List Char :=
  let digits := Nat.toDigits 10 number
  List.replicate (width - digits.length) '0' ++ digits

/-- The text of a date. -/
def Date.toChars (date : Date) : List Char :=
  padded 4 date.year ++ '-' :: padded 2 date.month ++ '-' :: padded 2 date.day

/-- The text of a time of day. -/
def DayTime.toChars (time : DayTime) : List Char :=
  padded 2 time.hour ++ ':' :: padded 2 time.minute ++
    ':' :: padded 2 time.second ++
    (if time.fraction.isEmpty then [] else '.' :: time.fraction)

/-- The text of a zone. -/
def Zone.toChars : Zone → List Char
  | .universal => ['Z']
  | .shifted isWest hours minutes =>
      (if isWest then '-' else '+') ::
        (padded 2 hours ++ ':' :: padded 2 minutes)

/-- The text of an optional zone. -/
def Zone.optionalChars : Option Zone → List Char
  | none => []
  | some zone => zone.toChars

/-- The text of a date or a time. -/
def DateTime.text : DateTime → String
  | .ofDate date => String.ofList date.toChars
  | .ofTime time => String.ofList time.toChars
  | .ofBoth date time zone =>
      String.ofList
        (date.toChars ++ 'T' :: time.toChars ++ Zone.optionalChars zone)

end Toml

end LengthCalc
