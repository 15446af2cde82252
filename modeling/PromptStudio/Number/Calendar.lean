import PromptStudio.Number.Binary

/-!
# Seconds, days and years

The time of day and the year at a number of seconds since the epoch, and the readings of a clock
that have none. A log line carries a date with a year of one to four digits; a time of day alone
only has to fit in the system's record of a date.
-/

namespace PromptStudio

/-- Why a clock reading has no date. -/
inductive TimeFault where
  | notNumber
  /-- The reading does not fit in 64 bits. -/
  | range
  /-- The reading does not fit in the system's record of a date. -/
  | record
  /-- The year does not fit in the record's field for it. -/
  | field
  | year (n : Int)
deriving DecidableEq, Repr, Inhabited

def TimeFault.recordText : String := "Value too large for defined data type"

/-- The message of a fault. -/
def TimeFault.message : TimeFault → String
  | notNumber => "Invalid value NaN (not a number)"
  | range => "timestamp out of range for platform time_t"
  | record => "[Errno 75] " ++ recordText
  | field => "signed integer is greater than maximum"
  | year n => s!"year {n} is out of range"

namespace Calendar

def twoDigits (n : Int) : String :=
  let s := toString n
  if s.length < 2 then "0" ++ s else s

def daySeconds : Int := 86400

def timeOfDay (seconds : Int) : String :=
  let day := seconds.fmod daySeconds
  twoDigits (day / 3600) ++ ":" ++ twoDigits (day / 60 % 60) ++ ":" ++ twoDigits (day % 60)

/-- The year at a number of seconds since the epoch. Years are counted from March, in eras of four
hundred years, so that the day that comes every four years is the last one. -/
def yearAt (seconds : Int) : Int :=
  let days := seconds.fdiv daySeconds + 719468
  let era := days.fdiv 146097
  let day := days - era * 146097
  let year := (day - day / 1460 + day / 36524 - day / 146096) / 365
  let rest := day - (365 * year + year / 4 - year / 100)
  year + era * 400 + if (5 * rest + 2) / 153 < 10 then 0 else 1

/-- The least and the greatest number of seconds that the record of a date takes. -/
def recordRange : Int × Int := (-67768040609740800, 67768036191676799)

/-- Whether whole seconds can be kept in a record of a date. -/
def check (seconds : Int) : Except TimeFault Unit :=
  if seconds < -(twoTo 63 : Int) ∨ twoTo 63 ≤ seconds then .error .range
  else if seconds < recordRange.1 ∨ recordRange.2 < seconds then .error .record
  else .ok ()

/-- A whole number of seconds from a reading, by the given rounding. -/
def wholeSeconds (x : Binary) (round : Binary → Option Int) : Except TimeFault Int :=
  match x with
  | .nan => .error .notNumber
  | x =>
    match round x with
    | some n => .ok n
    | none => .error .range

/-- The seconds of a reading, rounded to the next microsecond first. Only the part after the point
is rounded, and a half goes to the even neighbour. -/
def roundedSeconds? (x : Binary) : Option Int :=
  x.truncate?.map fun whole =>
    let part := x - Binary.ofInt whole
    let micros := ((part * Binary.ofInt 1000000).round?).getD 0
    whole + micros.fdiv 1000000

/-- The time of day in a log line. -/
def logTime (x : Binary) : Except TimeFault String := do
  let seconds ← wholeSeconds x roundedSeconds?
  check seconds
  let year := yearAt seconds
  if year < 1 ∨ 9999 < year then .error (.year (year.bmod (twoTo 32)))
  if yearAt (seconds - daySeconds) < 1 then .error (.year 0)
  .ok (timeOfDay seconds)

/-- The time of day alone, at a whole number of seconds. -/
def dayTimeAt (seconds : Int) : Except TimeFault String := do
  check seconds
  if twoTo 31 ≤ yearAt seconds then .error .field
  .ok (timeOfDay seconds)

/-- The time of day alone, at a reading. -/
def dayTime (x : Binary) : Except TimeFault String := do
  dayTimeAt (← wholeSeconds x Binary.floor?)

end Calendar

end PromptStudio
