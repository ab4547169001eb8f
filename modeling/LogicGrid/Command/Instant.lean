/-!
# Points in time

A point in time is counted in nanoseconds from the start of the year 1970 in universal time, and written as
`2024-02-29T23:59:59.500Z` is: date, time of day, and a fraction in groups of three digits where there is one.

* `civilDate` – the date of a day, counted from the first of March of the year 0, so that leap days end a year.
-/

namespace LogicGrid.Command

/-- A number in at least `width` decimal digits. -/
def padded (width n : Nat) : String :=
  let ds := n.repr.toList
  String.ofList (List.replicate (width - ds.length) '0' ++ ds)

/-- Year, month and day of the day that comes `days` days after the first of March of the year 0. Four hundred years
have 146097 days, and the months from March on follow a pattern of 153 days in five months. -/
def civilDate (days : Nat) : Nat × Nat × Nat :=
  let era := days / 146097
  let dayOfEra := days % 146097
  let yearOfEra := (dayOfEra - dayOfEra / 1460 + dayOfEra / 36524 - dayOfEra / 146096) / 365
  let dayOfYear := dayOfEra - (365 * yearOfEra + yearOfEra / 4 - yearOfEra / 100)
  let month := (5 * dayOfYear + 2) / 153
  let day := dayOfYear - (153 * month + 2) / 5 + 1
  let year := 400 * era + yearOfEra
  if month < 10 then (year, month + 3, day) else (year + 1, month - 9, day)

/-- The days from the first of March of the year 0 to the first of January 1970. -/
def epochDay : Nat := 719468

/-- A fraction of a second, given in nanoseconds, in three, six or nine digits. -/
def fractionText (nanos : Nat) : String :=
  if nanos = 0 then ""
  else if nanos % 1000000 = 0 then "." ++ padded 3 (nanos / 1000000)
  else if nanos % 1000 = 0 then "." ++ padded 6 (nanos / 1000)
  else "." ++ padded 9 nanos

/-- The text of a point in time. -/
def instantText (nanos : Nat) : String :=
  let seconds := nanos / 1000000000
  let (year, month, day) := civilDate (epochDay + seconds / 86400)
  padded 4 year ++ "-" ++ padded 2 month ++ "-" ++ padded 2 day ++ "T" ++ padded 2 (seconds / 3600 % 24) ++ ":"
    ++ padded 2 (seconds / 60 % 60) ++ ":" ++ padded 2 (seconds % 60) ++ fractionText (nanos % 1000000000) ++ "Z"

end LogicGrid.Command
