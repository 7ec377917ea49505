
namespace FieldRules.Calendar

def minYear : Int := -262143

def maxYear : Int := 262142

def isLeap (y : Int) : Bool := y % 4 == 0 && (y % 100 != 0 || y % 400 == 0)

def monthLength (y : Int) (m : Nat) : Nat :=
  match m with
  | 2 => if isLeap y then 29 else 28
  | 4 | 6 | 9 | 11 => 30
  | _ => 31

/-- A calendar date. -/
structure Date where
  year : Int
  month : Nat
  day : Nat
deriving BEq, Repr, Inhabited

namespace Date

def ofYmd? (y : Int) (m d : Nat) : Option Date :=
  if minYear ≤ y && y ≤ maxYear && 1 ≤ m && m ≤ 12 && 1 ≤ d && d ≤ monthLength y m then
    some ⟨y, m, d⟩
  else none

def toDays (dt : Date) : Int :=
  let y : Int := if dt.month ≤ 2 then dt.year - 1 else dt.year
  let era := y / 400
  let yoe := y - era * 400
  let mp : Int := (dt.month + 9) % 12
  let doy := (153 * mp + 2) / 5 + dt.day - 1
  let doe := yoe * 365 + yoe / 4 - yoe / 100 + doy
  era * 146097 + doe - 719468

def ofDays (z : Int) : Date :=
  let z := z + 719468
  let era := z / 146097
  let doe := z - era * 146097
  let yoe := (doe - doe / 1460 + doe / 36524 - doe / 146096) / 365
  let doy := doe - (365 * yoe + yoe / 4 - yoe / 100)
  let mp := (5 * doy + 2) / 153
  let d := doy - (153 * mp + 2) / 5 + 1
  let m := if mp < 10 then mp + 3 else mp - 9
  ⟨yoe + era * 400 + (if m ≤ 2 then 1 else 0), m.toNat, d.toNat⟩

def ordinal (dt : Date) : Nat := (dt.toDays - (Date.mk dt.year 1 1).toDays).toNat + 1

def ofOrdinal? (y : Int) (o : Nat) : Option Date :=
  if 1 ≤ o && o ≤ (if isLeap y then 366 else 365) && minYear ≤ y && y ≤ maxYear then
    some (ofDays ((Date.mk y 1 1).toDays + o - 1))
  else none

def weekday (dt : Date) : Nat := ((dt.toDays + 3) % 7).toNat

/-- The number of weeks of a year in the week numbering starting on a given weekday (0 for
Monday, 6 for Sunday): days before the year's first such weekday are in week 0. -/
def weeksFrom (dt : Date) (start : Nat) : Int :=
  let daysSince := (dt.weekday + 7 - start) % 7
  (Int.ofNat dt.ordinal - daysSince + 6) / 7

def isoWeeksIn (y : Int) : Nat :=
  let w := (Date.mk y 1 1).weekday
  if w == 3 || (w == 2 && isLeap y) then 53 else 52

def isoWeek (dt : Date) : Int × Nat :=
  let w : Int := (Int.ofNat dt.ordinal - (dt.weekday + 1) + 10) / 7
  if w < 1 then (dt.year - 1, isoWeeksIn (dt.year - 1))
  else if w > isoWeeksIn dt.year then (dt.year + 1, 1)
  else (dt.year, w.toNat)

def ofIsoWeek? (y : Int) (week weekday : Nat) : Option Date :=
  if 1 ≤ week && week ≤ isoWeeksIn y && weekday < 7 then
    let jan4 := Date.mk y 1 4
    let monday := jan4.toDays - jan4.weekday
    let dt := ofDays (monday + 7 * (week - 1) + weekday)
    if minYear ≤ dt.year && dt.year ≤ maxYear then some dt else none
  else none

end Date

/-- A date with a time of day. -/
structure Moment where
  date : Date
  /-- Seconds since midnight, below 86400. -/
  secs : Nat
  /-- Nanoseconds within the second; from one second on, a leap second. -/
  nano : Nat
deriving BEq, Repr, Inhabited

namespace Moment

def key (m : Moment) : Int × Nat × Nat := (m.date.toDays, m.secs, m.nano)

def lt (a b : Moment) : Bool :=
  let (d1, s1, n1) := a.key
  let (d2, s2, n2) := b.key
  d1 < d2 || (d1 == d2 && (s1 < s2 || (s1 == s2 && n1 < n2)))

def le (a b : Moment) : Bool := !lt b a

def ofEpoch? (secs : Int) (nano : Nat) : Option Moment :=
  let date := Date.ofDays (secs / 86400)
  if minYear ≤ date.year && date.year ≤ maxYear then some ⟨date, (secs % 86400).toNat, nano⟩
  else none

def ofEpochMillis? (ms : Int) : Option Moment :=
  ofEpoch? (ms / 1000) ((ms % 1000).toNat * 1000000)

def epochSeconds (m : Moment) : Int := m.date.toDays * 86400 + m.secs

def hour (m : Moment) : Nat := m.secs / 3600

def minute (m : Moment) : Nat := m.secs / 60 % 60

def second (m : Moment) : Nat := m.secs % 60

def midnight (d : Date) : Moment := ⟨d, 0, 0⟩

def shift (m : Moment) (seconds : Int) : Moment :=
  let total := m.epochSeconds + seconds
  ⟨Date.ofDays (total / 86400), (total % 86400).toNat, m.nano⟩

end Moment

end FieldRules.Calendar
