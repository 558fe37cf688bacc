/-!
# Dates in header fields

The fixed-length form of a moment that HTTP header fields use (RFC 9110), such as
`Sun, 06 Nov 1994 08:49:37 GMT`.  A moment is the number of seconds since the start
of 1970.
-/

namespace FormFetch.Http.Date

/-- The days of the week, from the first day of 1970 on. -/
def weekdays : List String :=
  ["Thu", "Fri", "Sat", "Sun", "Mon", "Tue", "Wed"]

/-- The months, from March on. -/
def months : List String :=
  ["Mar", "Apr", "May", "Jun", "Jul", "Aug", "Sep", "Oct", "Nov", "Dec", "Jan", "Feb"]

/-- A day of the calendar; `month` counts from March. -/
structure Day where
  year : Nat
  month : Nat
  day : Nat
  deriving DecidableEq, Repr

/-- The day that comes `days` days after the first one of 1970.  Years are counted from March on, so
that the day that a leap year has more comes last. -/
def dayAfter (days : Nat) : Day :=
  let days := days + 719468
  let inEra := days % 146097
  let yearOfEra := (inEra - inEra / 1460 + inEra / 36524 - inEra / 146096) / 365
  let inYear := inEra - (365 * yearOfEra + yearOfEra / 4 - yearOfEra / 100)
  let month := (5 * inYear + 2) / 153
  { year := days / 146097 * 400 + yearOfEra + (if month < 10 then 0 else 1)
    month
    day := inYear - (153 * month + 2) / 5 + 1 }

/-- A number in at least `width` digits. -/
def padded (width n : Nat) : String :=
  let digits := toString n
  String.ofList (List.replicate (width - digits.length) '0') ++ digits

/-- The written form of a moment. -/
def text (seconds : Nat) : String :=
  let days := seconds / 86400
  let date := dayAfter days
  let weekday := weekdays.getD (days % 7) ""
  let month := months.getD date.month ""
  let time := ":".intercalate
    ([seconds / 3600 % 24, seconds / 60 % 60, seconds % 60].map (padded 2))
  s!"{weekday}, {padded 2 date.day} {month} {padded 4 date.year} {time} GMT"

example : text 784111777 = "Sun, 06 Nov 1994 08:49:37 GMT" := by decide +kernel

end FormFetch.Http.Date
