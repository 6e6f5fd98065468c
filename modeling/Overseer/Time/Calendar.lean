/-
Overseer.Time.Calendar — seconds since 1970 as a date and a time of day.

The calendar is the Gregorian one, extended without end in both directions,
and the clock is UTC. The year is counted from March, so that the day added in
a leap year is the last of its year: then the day within a cycle of 400 years
determines year, month and day by division alone.
-/
namespace Overseer.Time

/-- A date and a time of day. -/
structure Moment where
  year : Int
  month : Nat
  day : Nat
  hour : Nat
  minute : Nat
  second : Nat
deriving DecidableEq, Repr

/-- Days from 1 March of year 0 to 1 January 1970. -/
def daysToEpoch : Int := 719468

/-- Days in 400 years. -/
def daysInCycle : Int := 146097

/-- The moment that lies the given number of seconds after the start of 1970. -/
def Moment.ofSeconds (t : Int) : Moment :=
  let days := Int.fdiv t 86400 + daysToEpoch
  let rest := (Int.fmod t 86400).toNat
  let cycle := Int.fdiv days daysInCycle
  let dayOfCycle := (Int.fmod days daysInCycle).toNat
  let yearOfCycle :=
    (dayOfCycle - dayOfCycle / 1460 + dayOfCycle / 36524 - dayOfCycle / 146096) / 365
  let dayOfYear := dayOfCycle - (365 * yearOfCycle + yearOfCycle / 4 - yearOfCycle / 100)
  let monthFromMarch := (5 * dayOfYear + 2) / 153
  let month := if monthFromMarch < 10 then monthFromMarch + 3 else monthFromMarch - 9
  { year := yearOfCycle + cycle * 400 + (if month ≤ 2 then 1 else 0)
    month := month
    day := dayOfYear - (153 * monthFromMarch + 2) / 5 + 1
    hour := rest / 3600
    minute := rest / 60 % 60
    second := rest % 60 }

/-- A number with at least `width` digits. -/
def padded (width n : Nat) : String :=
  let digits := toString n
  "".pushn '0' (width - digits.length) ++ digits

/-- A year has at least four digits, and a sign outside 0 to 9999. -/
def yearText (y : Int) : String :=
  if 0 ≤ y ∧ y ≤ 9999 then padded 4 y.toNat
  else (if y < 0 then "-" else "+") ++ padded 4 y.natAbs

/-- The date and the time of day, parted by one blank. -/
def Moment.text (m : Moment) : String :=
  yearText m.year ++ "-" ++ padded 2 m.month ++ "-" ++ padded 2 m.day ++ " "
    ++ padded 2 m.hour ++ ":" ++ padded 2 m.minute ++ ":" ++ padded 2 m.second

/-- The first second of year -262143. -/
def firstDated : Int := -8334601228800

/-- The last second of year 262142. -/
def lastDated : Int := 8210266876799

/-- A time stamp in words; outside the dated years it is the bare number. -/
def timestampText (t : Int) : String :=
  if firstDated ≤ t ∧ t ≤ lastDated then (Moment.ofSeconds t).text else toString t

example : timestampText 1700000000 = "2023-11-14 22:13:20" := by decide +kernel
example : (Moment.ofSeconds firstDated).year = -262143 := by decide +kernel
example : (Moment.ofSeconds (lastDated + 1)).year = 262143 := by decide +kernel

end Overseer.Time
