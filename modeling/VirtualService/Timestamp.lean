/-
  VirtualService/Timestamp.lean
  =============================
  **Instants and their written form.**

  An instant is written in RFC 3339.  Any offset is read, but the instant is kept
  and written in universal time, with as many groups of three decimals as it
  needs.  Reading is lenient about blanks between the parts.
-/
import VirtualService.Decode
import VirtualService.Text.Split

namespace VirtualService

/-- An instant: seconds since the beginning of 1970 and nanoseconds in the second.  A second beyond the
    last of a minute is written as part of that minute's last second, with a billion nanoseconds or
    more. -/
structure Timestamp where
  seconds : Int
  nanos : Nat
deriving DecidableEq, Repr, Inhabited

/-- Why a text is no instant. -/
inductive TimestampFault where
  | tooShort
  | invalid
  | outOfRange
  | impossible
  | tooLong
deriving DecidableEq, Repr

def TimestampFault.message : TimestampFault → String
  | tooShort => "premature end of input"
  | invalid => "input contains invalid characters"
  | outOfRange => "input is out of range"
  | impossible => "no possible date and time matching input"
  | tooLong => "trailing input"

namespace Calendar

/-! ### Dates -/

def isLeap (year : Int) : Bool := (year % 4 == 0 && year % 100 != 0) || year % 400 == 0

def daysInMonth (year : Int) (month : Nat) : Nat :=
  if month = 2 then if isLeap year then 29 else 28
  else if month = 4 || month = 6 || month = 9 || month = 11 then 30
  else 31

/-- The day of a date, counted from the beginning of 1970.  Years are counted from March, so that a
    leap day is the last day of its year. -/
def dayNumber (year : Int) (month day : Nat) : Int :=
  let y : Int := if month ≤ 2 then year - 1 else year
  let era := y / 400
  let yearOfEra := y % 400
  let dayOfYear : Int := ((153 * ((month + 9) % 12) + 2) / 5 + day - 1 : Nat)
  era * 146097 + (yearOfEra * 365 + yearOfEra / 4 - yearOfEra / 100 + dayOfYear) - 719468

/-- The date of a day counted from the beginning of 1970: year, month and day. -/
def date (number : Int) : Int × Nat × Nat :=
  let z := number + 719468
  let era := z / 146097
  let dayOfEra := (z % 146097).toNat
  let yearOfEra := (dayOfEra - dayOfEra / 1460 + dayOfEra / 36524 - dayOfEra / 146096) / 365
  let dayOfYear := dayOfEra - (365 * yearOfEra + yearOfEra / 4 - yearOfEra / 100)
  let mp := (5 * dayOfYear + 2) / 153
  let day := dayOfYear - (153 * mp + 2) / 5 + 1
  let month := if mp < 10 then mp + 3 else mp - 9
  let year : Int := yearOfEra + era * 400
  (if month ≤ 2 then year + 1 else year, month, day)

def minYear : Int := -262143
def maxYear : Int := 262142

end Calendar

namespace Timestamp

/-! ### Writing -/

/-- A year of four digits, or more with a sign. -/
def yearText (year : Int) : List Char :=
  if 0 ≤ year ∧ year ≤ 9999 then Digits.padded 4 year.toNat
  else (if year < 0 then '-' else '+') :: Digits.padded 4 year.natAbs

/-- The decimals of a second, in as many groups of three as are needed. -/
def fractionText (nanos : Nat) : List Char :=
  if nanos = 0 then []
  else if nanos % 1000000 = 0 then '.' :: Digits.padded 3 (nanos / 1000000)
  else if nanos % 1000 = 0 then '.' :: Digits.padded 6 (nanos / 1000)
  else '.' :: Digits.padded 9 nanos

def text (t : Timestamp) : String :=
  let (year, month, day) := Calendar.date (t.seconds / 86400)
  let second := (t.seconds % 86400).toNat
  let (extra, nanos) := if t.nanos ≥ 1000000000 then (1, t.nanos - 1000000000) else (0, t.nanos)
  String.ofList <|
    yearText year ++ '-' :: Digits.padded 2 month ++ '-' :: Digits.padded 2 day ++
      'T' :: Digits.padded 2 (second / 3600) ++ ':' :: Digits.padded 2 (second / 60 % 60) ++
      ':' :: Digits.padded 2 (second % 60 + extra) ++ fractionText nanos ++ ['Z']

/-! ### Reading -/

/-- A number of at most `width` digits. -/
def number (width : Nat) (cs : List Char) : Except TimestampFault (Nat × List Char) :=
  match (cs.take width).takeWhile Digits.isDecimal with
  | [] => .error (if cs.isEmpty then .tooShort else .invalid)
  | digits => .ok (Digits.value digits, cs.drop digits.length)

/-- A number of at most two digits within bounds, after blanks. -/
def bounded (low high : Nat) (cs : List Char) : Except TimestampFault (Nat × List Char) := do
  let (n, rest) ← number 2 (Blank.trimStart cs)
  if low ≤ n ∧ n ≤ high then .ok (n, rest) else .error .outOfRange

/-- A year: four digits at most, or any number of them after a sign. -/
def year (cs : List Char) : Except TimestampFault (Int × List Char) := do
  let cs := Blank.trimStart cs
  let (y, rest) ← match cs with
    | '-' :: rest => (number rest.length.succ rest).map fun r => (-(r.1 : Int), r.2)
    | '+' :: rest => (number rest.length.succ rest).map fun r => ((r.1 : Int), r.2)
    | _ => (number 4 cs).map fun r => ((r.1 : Int), r.2)
  if -2147483648 ≤ y ∧ y ≤ 2147483647 then .ok (y, rest) else .error .outOfRange

/-- A mark after blanks. -/
def mark (c : Char) (cs : List Char) : Except TimestampFault (Unit × List Char) :=
  match Blank.trimStart cs with
  | [] => .error .tooShort
  | d :: rest => if d = c then .ok ((), rest) else .error .invalid

/-- The decimals of a second, of which nine count. -/
def fraction (cs : List Char) : Except TimestampFault (Nat × List Char) :=
  match cs with
  | '.' :: rest => do
      let (n, after) ← number 9 rest
      let digits := rest.length - after.length
      .ok (n * tenTo (9 - digits), after.dropWhile Digits.isDecimal)
  | _ => .ok (0, cs)

/-- The value of two digits. -/
def twoDigits (cs : List Char) : Except TimestampFault (Nat × List Char) :=
  match cs with
  | a :: b :: rest =>
      match Digits.decimal? a, Digits.decimal? b with
      | some x, some y => .ok (x * 10 + y, rest)
      | _, _ => .error .invalid
  | _ => .error .tooShort

/-- An offset from universal time, in seconds. -/
def offset (cs : List Char) : Except TimestampFault (Int × List Char) :=
  match cs with
  | 'Z' :: rest => .ok (0, rest)
  | 'z' :: rest => .ok (0, rest)
  | '+' :: rest => signed 1 rest
  | '-' :: rest => signed (-1) rest
  | '−' :: rest => signed (-1) rest
  | a :: b :: c :: rest =>
      if [a, b, c].map Char.toUpper = ['U', 'T', 'C'] then .ok (0, rest)
      else .error .invalid
  | _ :: _ => .error .invalid
  | [] => .error .tooShort
where
  signed (sign : Int) (cs : List Char) : Except TimestampFault (Int × List Char) := do
    let (hours, rest) ← twoDigits cs
    let (minutes, rest) ← twoDigits (rest.dropWhile fun c => c = ':' || Blank.isBlank c)
    if minutes < 60 then .ok (sign * (hours * 3600 + minutes * 60 : Nat), rest)
    else .error .outOfRange

/-- The mark between date and time. -/
def between (cs : List Char) : Except TimestampFault (Unit × List Char) :=
  match cs with
  | [] => .error .tooShort
  | c :: rest => if c = 't' || c = 'T' || c = ' ' then .ok ((), rest) else .error .invalid

/-- The instant of a local date and time at an offset. -/
def atOffset (year : Int) (month day hour minute second nanos : Nat) (offset : Int) :
    Except TimestampFault Timestamp :=
  if year < Calendar.minYear ∨ Calendar.maxYear < year ∨ Calendar.daysInMonth year month < day ∨
      86400 ≤ offset.natAbs then .error .outOfRange
  else
    let (second, nanos) := if second = 60 then (59, nanos + 1000000000) else (second, nanos)
    let instant := Calendar.dayNumber year month day * 86400 +
      (hour * 3600 + minute * 60 + second : Nat) - offset
    let (universalYear, _, _) := Calendar.date (instant / 86400)
    if universalYear < Calendar.minYear ∨ Calendar.maxYear < universalYear then .error .impossible
    else .ok ⟨instant, nanos⟩

def ofText (text : String) : Except TimestampFault Timestamp := do
  let (y, cs) ← year text.toList
  let ((), cs) ← mark '-' cs
  let (month, cs) ← bounded 1 12 cs
  let ((), cs) ← mark '-' cs
  let (day, cs) ← bounded 1 31 cs
  let ((), cs) ← between cs
  let (hour, cs) ← bounded 0 23 cs
  let ((), cs) ← mark ':' cs
  let (minute, cs) ← bounded 0 59 cs
  let ((), cs) ← mark ':' cs
  let (second, cs) ← bounded 0 60 cs
  let (nanos, cs) ← fraction cs
  let (shift, cs) ← offset (Blank.trimStart cs)
  if Blank.trimStart cs = [] then atOffset y month day hour minute second nanos shift
  else .error .tooLong

/-! ### In records -/

def encode (t : Timestamp) : Json := .str t.text

def decode : Decoder Timestamp
  | .str s =>
      match ofText s with
      | .ok t => .ok t
      | .error fault => .error (.refused fault.message)
  | other => .error (.wrongKind other "an RFC 3339 formatted date and time string")

end Timestamp

end VirtualService
