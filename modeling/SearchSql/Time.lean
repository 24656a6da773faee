/-
SearchSql.Time — points in time, and how they are written.

A point in time counts nanoseconds from the start of the year 1970 in
universal time. It is written as a date of the Gregorian calendar, extended to
all years, and a time of day with as many decimals as it needs in groups of
three.
-/
import SearchSql.Number.Layout

namespace SearchSql

open SearchSql.Number

/-! ## 1. Points and spans -/

/-- A span of time. -/
structure Duration where
  nanos : Nat
deriving DecidableEq, Repr

/-- A point in time, in nanoseconds from 1970-01-01T00:00:00Z on. -/
structure Instant where
  nanos : Int
deriving DecidableEq, Repr

namespace Duration

def ofMillis (n : Nat) : Duration := ⟨n * 1000000⟩

def ofMicros (n : Nat) : Duration := ⟨n * 1000⟩

/-- The whole milliseconds of a span. -/
def millis (d : Duration) : Nat := d.nanos / 1000000

/-- The whole seconds of a span. -/
def seconds (d : Duration) : Nat := d.nanos / 1000000000

/-- The nanoseconds beyond the whole seconds. -/
def subsecond (d : Duration) : Nat := d.nanos % 1000000000

end Duration

namespace Instant

def ofMillis (n : Int) : Instant := ⟨n * 1000000⟩

/-- The span from one point to another; nothing if the other is earlier. -/
def elapsedTo (a b : Instant) : Duration := ⟨(b.nanos - a.nanos).toNat⟩

/-! ## 2. The calendar -/

/-- The days of four hundred years. -/
def eraDays : Nat := 146097

/-- The year of an era, from 0 to 399, in which a day of the era falls. Years
are counted from March on, so that the leap day is the last one. -/
def yearOfEra (day : Nat) : Nat :=
  (day - day / 1460 + day / 36524 - day / 146096) / 365

/-- Year, month and day of a day counted from the first of January 1970. -/
def civil (day : Int) : Int × Nat × Nat :=
  let shifted := day + 719468
  let era := Int.fdiv shifted eraDays
  let dayOfEra := (Int.fmod shifted eraDays).toNat
  let year := yearOfEra dayOfEra
  let dayOfYear := dayOfEra - (365 * year + year / 4 - year / 100)
  let fromMarch := (5 * dayOfYear + 2) / 153
  let month := if fromMarch < 10 then fromMarch + 3 else fromMarch - 9
  let date := dayOfYear - (153 * fromMarch + 2) / 5 + 1
  (era * 400 + year + (if month ≤ 2 then 1 else 0), month, date)

/-! ## 3. Text -/

/-- A year in four digits, and with a sign and at least four digits outside of
0 to 9999. -/
def yearText (year : Int) : String :=
  if 0 ≤ year ∧ year ≤ 9999 then paddedText 4 year.toNat
  else (if year < 0 then "-" else "+") ++ paddedText 4 year.natAbs

/-- The decimals of a second in groups of three, none for a whole second. -/
def fractionText (nanos : Nat) : String :=
  if nanos = 0 then ""
  else if nanos % 1000000 = 0 then "." ++ paddedText 3 (nanos / 1000000)
  else if nanos % 1000 = 0 then "." ++ paddedText 6 (nanos / 1000)
  else "." ++ paddedText 9 nanos

/-- A point in time, with `T` between date and time of day and `Z` at the
end. -/
def text (t : Instant) : String :=
  let nanosOfDay := (Int.fmod t.nanos 86400000000000).toNat
  let (year, month, day) := civil (Int.fdiv t.nanos 86400000000000)
  let seconds := nanosOfDay / 1000000000
  yearText year ++ "-" ++ paddedText 2 month ++ "-" ++ paddedText 2 day ++ "T"
    ++ paddedText 2 (seconds / 3600) ++ ":" ++ paddedText 2 (seconds / 60 % 60) ++ ":"
    ++ paddedText 2 (seconds % 60) ++ fractionText (nanosOfDay % 1000000000) ++ "Z"

end Instant

end SearchSql
