/-!
# Moments

The moment at which a line is written: date and time of day in the zone of Greenwich, down to the
microsecond.
-/

namespace CatalogBridge.Telemetry

/-- A number with zeros in front of it up to a width. -/
def padded (width n : Nat) : String :=
  let digits := toString n
  String.ofList (List.replicate (width - digits.length) '0') ++ digits

/-- Year, month and day of a day, counted from the first of January 1970. The year is taken to
begin with March, so that leap days come last; 719468 days lie between the first of March of the
year 0 and the day zero. -/
def civil (day : Nat) : Nat × Nat × Nat :=
  let shifted := day + 719468
  let era := shifted / 146097
  let dayOfEra := shifted % 146097
  let yearOfEra := (dayOfEra - dayOfEra / 1460 + dayOfEra / 36524 - dayOfEra / 146096) / 365
  let dayOfYear := dayOfEra - (365 * yearOfEra + yearOfEra / 4 - yearOfEra / 100)
  let shiftedMonth := (5 * dayOfYear + 2) / 153
  let day := dayOfYear - (153 * shiftedMonth + 2) / 5 + 1
  let month := if shiftedMonth < 10 then shiftedMonth + 3 else shiftedMonth - 9
  (yearOfEra + era * 400 + (if month ≤ 2 then 1 else 0), month, day)

/-- A moment in nanoseconds since the beginning of 1970, as text. -/
def moment (nanos : Nat) : String :=
  let seconds := nanos / 1000000000
  let (year, month, day) := civil (seconds / 86400)
  let second := seconds % 86400
  padded 4 year ++ "-" ++ padded 2 month ++ "-" ++ padded 2 day ++ "T"
    ++ padded 2 (second / 3600) ++ ":" ++ padded 2 (second / 60 % 60)
    ++ ":" ++ padded 2 (second % 60)
    ++ "." ++ padded 6 (nanos / 1000 % 1000000) ++ "Z"

end CatalogBridge.Telemetry
