import FieldRules.Calendar.Date
import FieldRules.Text.Blank

namespace FieldRules.Calendar

/-- The numeric fields a pattern can read. -/
inductive Numeric where
  | year | yearDiv100 | yearMod100 | isoYear | isoYearDiv100 | isoYearMod100 | quarter
  | month | day | weekFromSun | weekFromMon | isoWeek | daysFromSun | weekdayFromMon
  | ordinal | hour | hour12 | minute | second | nanosecond | timestamp
deriving BEq, Repr, Inhabited

/-- The items of a format pattern. -/
inductive Item where
  /-- Text that must occur as written. -/
  | literal (text : List Char)
  /-- Any run of blanks, possibly empty. -/
  | space
  | numeric (n : Numeric)
  | monthName (long : Bool)
  | weekdayName (long : Bool)
  /-- `am` or `pm` in any case. -/
  | meridiem
  /-- An optional fraction of a second after a dot. -/
  | fraction
  /-- An optional fraction of a second after a dot, of exactly `digits` digits when the dot is
there. -/
  | dottedFraction (digits : Nat)
  /-- A fraction of a second of a fixed number of digits, without a dot. -/
  | fixedFraction (digits : Nat)
  /-- A time zone name: everything up to the next blank. -/
  | zoneName
  /-- A time zone offset; `Z` stands for zero when `zulu`, and minutes may be left out when
  `short`. -/
  | offset (zulu short : Bool)
  /-- A relaxed RFC 3339 timestamp. -/
  | rfc3339
  /-- A malformed specifier; reading fails when it is reached. -/
  | bad
deriving BEq, Repr, Inhabited

/-- The fields recorded while reading. Weekdays count from Monday as 0. -/
structure Fields where
  year : Option Int := none
  yearDiv100 : Option Int := none
  yearMod100 : Option Int := none
  isoYear : Option Int := none
  isoYearDiv100 : Option Int := none
  isoYearMod100 : Option Int := none
  quarter : Option Int := none
  month : Option Int := none
  weekFromSun : Option Int := none
  weekFromMon : Option Int := none
  isoWeek : Option Int := none
  weekday : Option Int := none
  ordinal : Option Int := none
  day : Option Int := none
  hourDiv12 : Option Int := none
  hourMod12 : Option Int := none
  minute : Option Int := none
  second : Option Int := none
  nanosecond : Option Int := none
  timestamp : Option Int := none
  offset : Option Int := none
deriving Repr, Inhabited

def record (old : Option Int) (v : Int) : Option (Option Int) :=
  match old with
  | some w => if w == v then some (some v) else none
  | none => some (some v)

def within (lo hi v : Int) : Bool := lo ≤ v && v ≤ hi

def fits32 (v : Int) : Bool := within (-2147483648) 2147483647 v

def fits64 (v : Int) : Bool := within (-9223372036854775808) 9223372036854775807 v

namespace Fields

def setHour (f : Fields) (v : Int) : Option Fields := do
  guard (within 0 23 v)
  let d ← record f.hourDiv12 (v / 12)
  let m ← record f.hourMod12 (v % 12)
  pure { f with hourDiv12 := d, hourMod12 := m }

def set (f : Fields) (n : Numeric) (v : Int) : Option Fields :=
  match n with
  | .year => if fits32 v then (record f.year v).map fun x => { f with year := x } else none
  | .yearDiv100 =>
    if within 0 2147483647 v then (record f.yearDiv100 v).map fun x => { f with yearDiv100 := x }
    else none
  | .yearMod100 =>
    if within 0 99 v then (record f.yearMod100 v).map fun x => { f with yearMod100 := x } else none
  | .isoYear => if fits32 v then (record f.isoYear v).map fun x => { f with isoYear := x } else none
  | .isoYearDiv100 =>
    if within 0 2147483647 v then
      (record f.isoYearDiv100 v).map fun x => { f with isoYearDiv100 := x }
    else none
  | .isoYearMod100 =>
    if within 0 99 v then (record f.isoYearMod100 v).map fun x => { f with isoYearMod100 := x }
    else none
  | .quarter =>
    if within 1 4 v then (record f.quarter v).map fun x => { f with quarter := x } else none
  | .month => if within 1 12 v then (record f.month v).map fun x => { f with month := x } else none
  | .day => if within 1 31 v then (record f.day v).map fun x => { f with day := x } else none
  | .weekFromSun =>
    if within 0 53 v then (record f.weekFromSun v).map fun x => { f with weekFromSun := x } else none
  | .weekFromMon =>
    if within 0 53 v then (record f.weekFromMon v).map fun x => { f with weekFromMon := x } else none
  | .isoWeek =>
    if within 1 53 v then (record f.isoWeek v).map fun x => { f with isoWeek := x } else none
  | .daysFromSun =>
    if within 0 6 v then (record f.weekday ((v + 6) % 7)).map fun x => { f with weekday := x }
    else none
  | .weekdayFromMon =>
    if within 1 7 v then (record f.weekday (v - 1)).map fun x => { f with weekday := x } else none
  | .ordinal =>
    if within 1 366 v then (record f.ordinal v).map fun x => { f with ordinal := x } else none
  | .hour => f.setHour v
  | .hour12 =>
    if within 1 12 v then (record f.hourMod12 (v % 12)).map fun x => { f with hourMod12 := x }
    else none
  | .minute =>
    if within 0 59 v then (record f.minute v).map fun x => { f with minute := x } else none
  | .second =>
    if within 0 60 v then (record f.second v).map fun x => { f with second := x } else none
  | .nanosecond =>
    if within 0 999999999 v then (record f.nanosecond v).map fun x => { f with nanosecond := x }
    else none
  | .timestamp => (record f.timestamp v).map fun x => { f with timestamp := x }

def setAfternoon (f : Fields) (pm : Bool) : Option Fields :=
  (record f.hourDiv12 (if pm then 1 else 0)).map fun x => { f with hourDiv12 := x }

def setOffset (f : Fields) (v : Int) : Option Fields :=
  (record f.offset v).map fun x => { f with offset := x }

end Fields

def digit? (c : Char) : Option Nat := if c.isDigit then some (c.toNat - 48) else none

def scanNumber (s : List Char) (lo hi : Nat) : Option (List Char × Int) :=
  let rec go : List Char → Nat → Int → Option (List Char × Int)
    | [], _, n => some ([], n)
    | c :: cs, i, n =>
      if i ≥ hi then some (c :: cs, n)
      else match digit? c with
        | some d =>
          let n' := n * 10 + d
          if fits64 n' then go cs (i + 1) n' else none
        | none => if i < lo then none else some (c :: cs, n)
  if s.length < lo then none else go s 0 0

def scanFraction (s : List Char) : Option (List Char × Int) := do
  let (rest, v) ← scanNumber s 1 9
  let used := s.length - rest.length
  pure (rest.dropWhile Char.isDigit, v * Nat.pow 10 (9 - used))

def scanFixedFraction (s : List Char) (n : Nat) : Option (List Char × Int) := do
  let (rest, v) ← scanNumber s n n
  pure (rest, v * Nat.pow 10 (9 - n))

def lowerAscii (c : Char) : Char := if 'A' ≤ c && c ≤ 'Z' then Char.ofNat (c.toNat + 32) else c

def startsWithFolded (s : List Char) (word : String) : Bool :=
  word.toList.length ≤ s.length && (s.zip word.toList).all fun (a, b) => lowerAscii a == b

/-- Reads a three-letter name from a table; when `long`, also the rest of its long form if it
follows, so that a long name is read in either form and a short name in its short form only. -/
def scanName (long : Bool) (table : List (String × String)) (s : List Char) :
    Option (List Char × Nat) :=
  let rec go : List (String × String) → Nat → Option (List Char × Nat)
    | [], _ => none
    | (short, suffix) :: rest, i =>
      if startsWithFolded s short then
        let s := s.drop 3
        some (if long && startsWithFolded s suffix then s.drop suffix.length else s, i)
      else go rest (i + 1)
  go table 0

def monthNames : List (String × String) :=
  [("jan", "uary"), ("feb", "ruary"), ("mar", "ch"), ("apr", "il"), ("may", ""), ("jun", "e"),
   ("jul", "y"), ("aug", "ust"), ("sep", "tember"), ("oct", "ober"), ("nov", "ember"),
   ("dec", "ember")]

def weekdayNames : List (String × String) :=
  [("mon", "day"), ("tue", "sday"), ("wed", "nesday"), ("thu", "rsday"), ("fri", "day"),
   ("sat", "urday"), ("sun", "day")]

def skipColons (s : List Char) : Option (List Char) :=
  some (s.dropWhile fun c => c == ':' || Text.isBlank c)

def oneColon (s : List Char) : Option (List Char) :=
  match s with
  | ':' :: rest => some rest
  | _ => none

/-- Reads a time zone offset in seconds: a sign (also U+2212), two digits of hours, a
separator, then two digits of minutes below 60, which may be absent when `short`. -/
def scanOffset (sep : List Char → Option (List Char)) (zulu short : Bool) (s : List Char) :
    Option (List Char × Int) := do
  match s with
  | c :: rest =>
    if zulu && (c == 'Z' || c == 'z') then some (rest, 0) else
    let negative ← if c == '+' then some false else if c == '-' || c == '−' then some true
      else none
    let (hours, rest) ← match rest with
      | a :: b :: r => do
        let x ← digit? a
        let y ← digit? b
        pure (x * 10 + y, r)
      | _ => none
    let rest ← sep rest
    let (minutes, rest) ← match rest with
      | a :: b :: r =>
        match digit? a, digit? b with
        | some x, some y => if x ≤ 5 then some (x * 10 + y, r) else none
        | _, _ => none
      | [] => if short then some (0, []) else none
      | [_] => none
    let secs : Int := hours * 3600 + minutes * 60
    pure (rest, if negative then -secs else secs)
  | [] => none

def specItems : Char → List Item
  | 'A' => [.weekdayName true]
  | 'B' => [.monthName true]
  | 'C' => [.numeric .yearDiv100]
  | 'D' | 'x' =>
    [.numeric .month, .literal ['/'], .numeric .day, .literal ['/'], .numeric .yearMod100]
  | 'F' => [.numeric .year, .literal ['-'], .numeric .month, .literal ['-'], .numeric .day]
  | 'G' => [.numeric .isoYear]
  | 'H' | 'k' => [.numeric .hour]
  | 'I' | 'l' => [.numeric .hour12]
  | 'M' => [.numeric .minute]
  | 'P' | 'p' => [.meridiem]
  | 'R' => [.numeric .hour, .literal [':'], .numeric .minute]
  | 'S' => [.numeric .second]
  | 'T' | 'X' =>
    [.numeric .hour, .literal [':'], .numeric .minute, .literal [':'], .numeric .second]
  | 'U' => [.numeric .weekFromSun]
  | 'V' => [.numeric .isoWeek]
  | 'W' => [.numeric .weekFromMon]
  | 'Y' => [.numeric .year]
  | 'Z' => [.zoneName]
  | 'a' => [.weekdayName false]
  | 'b' | 'h' => [.monthName false]
  | 'c' =>
    [.weekdayName false, .space, .monthName false, .space, .numeric .day, .space,
     .numeric .hour, .literal [':'], .numeric .minute, .literal [':'], .numeric .second, .space,
     .numeric .year]
  | 'd' | 'e' => [.numeric .day]
  | 'f' => [.numeric .nanosecond]
  | 'g' => [.numeric .isoYearMod100]
  | 'j' => [.numeric .ordinal]
  | 'm' => [.numeric .month]
  | 'n' | 't' => [.space]
  | 'q' => [.numeric .quarter]
  | 'r' =>
    [.numeric .hour12, .literal [':'], .numeric .minute, .literal [':'], .numeric .second,
     .space, .meridiem]
  | 's' => [.numeric .timestamp]
  | 'u' => [.numeric .weekdayFromMon]
  | 'v' => [.numeric .day, .literal ['-'], .monthName false, .literal ['-'], .numeric .year]
  | 'w' => [.numeric .daysFromSun]
  | 'y' => [.numeric .yearMod100]
  | 'z' => [.offset false false]
  | '+' => [.rfc3339]
  | '%' => [.literal ['%']]
  | _ => [.bad]

/-- Reads the specifier after a `%`: an optional padding flag (`-`, `0`, `_`, allowed on a
single number only) or `#` (allowed before `z` only), then a letter, `:z` forms of offsets or
the fraction forms `.f`, `.3f`, `3f` and the like. Gives the items and the rest of the pattern. -/
def readSpec (s : List Char) : List Item × List Char :=
  let (padded, alternate, s) := match s with
    | c :: rest => if c == '-' || c == '0' || c == '_' then (true, false, rest)
      else if c == '#' then (false, true, rest) else (false, false, c :: rest)
    | [] => (false, false, [])
  let fraction (digits : Char) (rest : List Char) (dotted : Bool) : List Item × List Char :=
    match rest with
    | 'f' :: r =>
      if dotted then ([.dottedFraction (digits.toNat - 48)], r)
      else ([.fixedFraction (digits.toNat - 48)], r)
    | _ :: r => ([.bad], r)
    | [] => ([.bad], [])
  let (items, rest) : List Item × List Char := match s with
    | [] => ([.bad], [])
    | c :: rest =>
      if alternate then (if c == 'z' then ([.offset true true], rest) else ([.bad], rest))
      else if c == ':' then
        match rest with
        | ':' :: ':' :: 'z' :: r => ([.offset false false], r)
        | ':' :: 'z' :: r => ([.offset false false], r)
        | 'z' :: r => ([.offset false false], r)
        | _ => ([.bad], rest)
      else if c == '.' then
        match rest with
        | 'f' :: r => ([.fraction], r)
        | d :: r => if d == '3' || d == '6' || d == '9' then fraction d r true else ([.bad], r)
        | [] => ([.bad], [])
      else if c == '3' || c == '6' || c == '9' then fraction c rest false
      else (specItems c, rest)
  if padded then
    match items with
    | [.numeric n] => ([.numeric n], rest)
    | _ => ([.bad], rest)
  else (items, rest)

/-- The items of a format pattern: specifiers, runs of blanks and runs of other text. The fuel
bounds the number of steps; each step consumes at least one character. -/
def patternItems (fuel : Nat) (s : List Char) : List Item :=
  match fuel, s with
  | 0, _ => []
  | _, [] => []
  | fuel + 1, '%' :: rest =>
    let (items, rest) := readSpec rest
    items ++ patternItems fuel rest
  | fuel + 1, c :: rest =>
    if Text.isBlank c then .space :: patternItems fuel (rest.dropWhile Text.isBlank)
    else
      let lit := (c :: rest).takeWhile fun d => !(Text.isBlank d || d == '%')
      .literal lit :: patternItems fuel ((c :: rest).drop lit.length)

def parsePattern (pattern : String) : List Item :=
  patternItems (pattern.length + 1) pattern.toList

def Numeric.width : Numeric → Nat × Bool
  | .year | .isoYear => (4, true)
  | .quarter | .daysFromSun | .weekdayFromMon => (1, false)
  | .ordinal => (3, false)
  | .nanosecond => (9, false)
  | .timestamp => (0, false)
  | _ => (2, false)

def scanNumeric (n : Numeric) (s : List Char) : Option (List Char × Int) :=
  let s := s.dropWhile Text.isBlank
  let (width, signed) := n.width
  let width := if width == 0 then s.length else width
  if signed then
    match s with
    | '-' :: rest => (scanNumber rest 1 rest.length).map fun (r, v) => (r, -v)
    | '+' :: rest => scanNumber rest 1 rest.length
    | _ => scanNumber s 1 width
  else scanNumber s 1 width

def scanBasic (f : Fields) (s : List Char) : Item → Option (Fields × List Char)
  | .literal text => if text.isPrefixOf s then some (f, s.drop text.length) else none
  | .space => some (f, s.dropWhile Text.isBlank)
  | .numeric n => do
    let (rest, v) ← scanNumeric n s
    let f ← f.set n v
    pure (f, rest)
  | .monthName long => do
    let (rest, i) ← scanName long monthNames s
    let f ← f.set .month (i + 1)
    pure (f, rest)
  | .weekdayName long => do
    let (rest, i) ← scanName long weekdayNames s
    let f ← (record f.weekday i).map fun x => { f with weekday := x }
    pure (f, rest)
  | .meridiem =>
    match s with
    | a :: b :: rest =>
      if lowerAscii b != 'm' then none
      else if lowerAscii a == 'a' then (f.setAfternoon false).map (·, rest)
      else if lowerAscii a == 'p' then (f.setAfternoon true).map (·, rest)
      else none
    | _ => none
  | .fraction =>
    match s with
    | '.' :: rest => do
      let (rest, v) ← scanFraction rest
      let f ← f.set .nanosecond v
      pure (f, rest)
    | _ => some (f, s)
  | .dottedFraction n =>
    match s with
    | '.' :: rest => do
      let (rest, v) ← scanFixedFraction rest n
      let f ← f.set .nanosecond v
      pure (f, rest)
    | _ => some (f, s)
  | .fixedFraction n => do
    let (rest, v) ← scanFixedFraction s n
    let f ← f.set .nanosecond v
    pure (f, rest)
  | .zoneName => some (f, s.dropWhile fun c => !Text.isBlank c)
  | .offset zulu short => do
    let (rest, v) ← scanOffset skipColons zulu short (s.dropWhile Text.isBlank)
    let f ← f.setOffset v
    pure (f, rest)
  | .rfc3339 | .bad => none

def scanBasics (f : Fields) (s : List Char) : List Item → Option (Fields × List Char)
  | [] => some (f, s)
  | item :: items => do
    let (f, s) ← scanBasic f s item
    scanBasics f s items

/-- Reads a relaxed RFC 3339 timestamp: a date, `T`, `t` or a blank, a time with an optional
fraction, and an offset or `UTC`, allowing blanks between the parts. -/
def scanRelaxed (f : Fields) (s : List Char) : Option (Fields × List Char) := do
  let (f, s) ← scanBasics f s
    [.numeric .year, .space, .literal ['-'], .numeric .month, .space, .literal ['-'],
     .numeric .day]
  let s ← match s with
    | c :: rest => if c == 'T' || c == 't' || c == ' ' then some rest else none
    | [] => none
  let (f, s) ← scanBasics f s
    [.numeric .hour, .space, .literal [':'], .numeric .minute, .space, .literal [':'],
     .numeric .second, .fraction, .space]
  let s := s.dropWhile Text.isBlank
  let (s, offset) ← if startsWithFolded s "utc" then some (s.drop 3, 0)
    else scanOffset skipColons true false s
  let f ← f.setOffset offset
  pure (f, s)

def scanItem (f : Fields) (s : List Char) : Item → Option (Fields × List Char)
  | .rfc3339 => scanRelaxed f s
  | item => scanBasic f s item

def scanItems (f : Fields) (s : List Char) : List Item → Option (Fields × List Char)
  | [] => some (f, s)
  | item :: items => do
    let (f, s) ← scanItem f s item
    scanItems f s items

def resolveYear (y q r : Option Int) : Option (Option Int) :=
  match y, q, r with
  | y, none, none => some y
  | some y, q, r =>
    if y < 0 then none
    else if q.getD (y / 100) == y / 100 && r.getD (y % 100) == y % 100 then some (some y)
    else none
  | none, some q, some r => if q < 0 then none else some (some (q * 100 + r))
  | none, none, some r => some (some (r + if r < 70 then 2000 else 1900))
  | none, some _, none => none

def agrees (field : Option Int) (v : Int) : Bool := field.all (· == v)

def agreesCentury (div mod : Option Int) (y : Int) : Bool :=
  if y ≥ 0 then agrees div (y / 100) && agrees mod (y % 100)
  else div.isNone && mod.isNone

namespace Fields

def fitsYmd (f : Fields) (d : Date) : Bool :=
  agrees f.year d.year && agreesCentury f.yearDiv100 f.yearMod100 d.year &&
    agrees f.month d.month && agrees f.day d.day

def fitsIsoWeek (f : Fields) (d : Date) : Bool :=
  let (y, w) := d.isoWeek
  agrees f.isoYear y && agreesCentury f.isoYearDiv100 f.isoYearMod100 y &&
    agrees f.isoWeek w && agrees f.weekday d.weekday

def fitsOrdinal (f : Fields) (d : Date) : Bool :=
  agrees f.ordinal d.ordinal && agrees f.weekFromSun (d.weeksFrom 6) &&
    agrees f.weekFromMon (d.weeksFrom 0)

def weekDate (year week weekday : Int) (start : Nat) : Option Date := do
  guard (week ≤ 53)
  let first ← Date.ofYmd? year 1 1
  let firstStart : Int := 1 + ((start + 7 - first.weekday) % 7 : Nat)
  let offset : Int := (weekday - start) % 7
  let ord := firstStart + (week - 1) * 7 + offset
  guard (ord > 0)
  let d := Date.ofDays (first.toDays + ord - 1)
  guard (minYear ≤ d.year && d.year ≤ maxYear)
  pure d

/-- The date the fields describe: year with month and day, with day of the year, or with a week
and weekday, else ISO year, week and weekday; every other recorded field must agree. -/
def toDate (f : Fields) : Option Date := do
  let year ← resolveYear f.year f.yearDiv100 f.yearMod100
  let isoYear ← resolveYear f.isoYear f.isoYearDiv100 f.isoYearMod100
  let (ok, d) ← match year, isoYear, f.month, f.day, f.ordinal with
    | some y, _, some m, some d, _ => do
      let date ← if m < 1 || d < 1 then none else Date.ofYmd? y m.toNat d.toNat
      pure (f.fitsIsoWeek date && f.fitsOrdinal date, date)
    | some y, _, _, _, some o => do
      let date ← if o < 1 then none else Date.ofOrdinal? y o.toNat
      pure (f.fitsYmd date && f.fitsIsoWeek date && f.fitsOrdinal date, date)
    | some y, iy, _, _, none =>
      match f.weekFromSun, f.weekFromMon, f.weekday, iy, f.isoWeek with
      | some w, _, some wd, _, _ => do
        let date ← weekDate y w wd 6
        pure (f.fitsYmd date && f.fitsIsoWeek date && f.fitsOrdinal date, date)
      | none, some w, some wd, _, _ => do
        let date ← weekDate y w wd 0
        pure (f.fitsYmd date && f.fitsIsoWeek date && f.fitsOrdinal date, date)
      | _, _, some wd, some iy, some w => do
        let date ← Date.ofIsoWeek? iy w.toNat wd.toNat
        pure (f.fitsYmd date && f.fitsOrdinal date, date)
      | _, _, _, _, _ => none
    | none, some iy, _, _, _ =>
      match f.isoWeek, f.weekday with
      | some w, some wd => do
        let date ← Date.ofIsoWeek? iy w.toNat wd.toNat
        pure (f.fitsYmd date && f.fitsOrdinal date, date)
      | _, _ => none
    | none, none, _, _, _ => none
  guard ok
  guard (agrees f.quarter ((d.month - 1) / 3 + 1))
  pure d

/-- The time of day the fields describe, as seconds of the day and nanoseconds: the hour and
minute are required, the second defaults to 0, and a fraction needs a second. -/
def toTime (f : Fields) : Option (Nat × Nat) := do
  let hd ← f.hourDiv12
  let hm ← f.hourMod12
  let m ← f.minute
  guard (within 0 1 hd && within 0 11 hm && within 0 59 m)
  let (sec, leap) ← match f.second.getD 0 with
    | 60 => some (59, 1000000000)
    | s => if within 0 59 s then some (s, 0) else none
  let nano ← match f.nanosecond with
    | some n => if f.second.isSome then some n else none
    | none => some 0
  pure (((hd * 12 + hm) * 3600 + m * 60 + sec).toNat, (leap + nano).toNat)

/-- The moment the fields describe, taken to be at a given offset from UTC when it is read from
a timestamp. A timestamp must agree with the date and time when those are complete. -/
def toMoment (f : Fields) (offset : Int) : Option Moment :=
  match f.toDate, f.toTime with
  | some d, some (secs, nano) =>
    let m : Moment := ⟨d, secs, nano⟩
    let ts := m.epochSeconds - offset
    match f.timestamp with
    | some given =>
      if given == ts || (nano ≥ 1000000000 && given == ts + 1) then some m else none
    | none => some m
  | _, _ => do
    let ts ← f.timestamp
    let m ← Moment.ofEpoch? (ts + offset) 0
    let (f, m) ← if f.second == some 60 then
        if m.second == 59 then some (f, m)
        else if m.second == 0 then some (f, m.shift (-1))
        else none
      else (f.set .second m.second).map (·, m)
    let f ← f.set .year m.date.year
    let f ← f.set .ordinal m.date.ordinal
    let f ← f.set .hour m.hour
    let f ← f.set .minute m.minute
    let d ← f.toDate
    let (secs, nano) ← f.toTime
    pure ⟨d, secs, nano⟩

end Fields

def scanWhole (pattern s : String) : Option Fields := do
  let (f, rest) ← scanItems {} s.toList (parsePattern pattern)
  if rest.isEmpty then some f else none

def readMoment? (pattern s : String) : Option Moment := do
  (← scanWhole pattern s).toMoment 0

def readDate? (pattern s : String) : Option Date := do
  (← scanWhole pattern s).toDate

def readTime? (pattern s : String) : Option (Nat × Nat) := do
  (← scanWhole pattern s).toTime

/-- Reads an RFC 3339 timestamp and gives its moment in UTC: exactly four digits of year, two of
month and day, `T`, `t` or a blank, two digits each of hour, minute and second, an optional
fraction, and `Z` or an offset of at most 23:59, with nothing after it. -/
def readRfc3339? (s : String) : Option Moment := do
  let cs := s.toList
  let num (cs : List Char) (n : Nat) (v : Numeric) (f : Fields) : Option (List Char × Fields) := do
    let (rest, x) ← scanNumber cs n n
    let f ← f.set v x
    pure (rest, f)
  let (cs, f) ← num cs 4 .year {}
  let cs ← match cs with | '-' :: r => some r | _ => none
  let (cs, f) ← num cs 2 .month f
  let cs ← match cs with | '-' :: r => some r | _ => none
  let (cs, f) ← num cs 2 .day f
  let cs ← match cs with
    | c :: r => if c == 'T' || c == 't' || c == ' ' then some r else none
    | [] => none
  let (cs, f) ← num cs 2 .hour f
  let cs ← match cs with | ':' :: r => some r | _ => none
  let (cs, f) ← num cs 2 .minute f
  let cs ← match cs with | ':' :: r => some r | _ => none
  let (cs, f) ← num cs 2 .second f
  let (cs, f) ← match cs with
    | '.' :: r => do
      let (r, v) ← scanFraction r
      let f ← f.set .nanosecond v
      pure (r, f)
    | _ => some (cs, f)
  let (cs, offset) ← scanOffset oneColon true false cs
  guard (within (-86340) 86340 offset)
  guard cs.isEmpty
  let wall ← f.toMoment offset
  let utc := wall.shift (-offset)
  guard (minYear ≤ utc.date.year && utc.date.year ≤ maxYear)
  pure utc

end FieldRules.Calendar
