import FormEngine.Number.Binary64
import FormEngine.Number.Word
import FormEngine.Value.Basic

/-!
Dates, times of day and moments in texts, and in numbers that count seconds from 1970. Texts are read
byte by byte; the first byte that does not fit decides what is reported.
-/

namespace FormEngine

namespace Temporal

inductive Part
  | year
  | month
  | day
  | hour
  | minute
  | second
  deriving DecidableEq, Repr

namespace Part

def word : Part → String
  | .year => "year"
  | .month => "month"
  | .day => "day"
  | .hour => "hour"
  | .minute => "minute"
  | .second => "second"

end Part

inductive Misfit
  | tooShort
  | extraCharacters
  | badCharacter (part : Part)
  | badDateSeparator
  | badTimeSeparator
  | badMiddle
  | monthOutOfRange
  | dayOutOfRange
  | hourOutOfRange
  | minuteOutOfRange
  | secondOutOfRange
  | fractionMissing
  | badZoneSign
  | badZoneHour
  | badZoneMinute
  | zoneMinuteOutOfRange
  | zoneOutOfRange
  | tooEarly
  | tooLate
  | notExact
  | negativeTime
  | timeTooLarge
  | notANumber
  deriving DecidableEq, Repr

namespace Misfit

def message : Misfit → String
  | .tooShort => "input is too short"
  | .extraCharacters => "unexpected extra characters at the end of the input"
  | .badCharacter part => "invalid character in " ++ part.word
  | .badDateSeparator => "invalid date separator, expected \x60-\x60"
  | .badTimeSeparator => "invalid time separator, expected \x60:\x60"
  | .badMiddle =>
    "invalid datetime separator, expected \x60T\x60, \x60t\x60, \x60_\x60 or space"
  | .monthOutOfRange => "month value is outside expected range of 1-12"
  | .dayOutOfRange => "day value is outside expected range"
  | .hourOutOfRange => "hour value is outside expected range of 0-23"
  | .minuteOutOfRange => "minute value is outside expected range of 0-59"
  | .secondOutOfRange => "second value is outside expected range of 0-59"
  | .fractionMissing => "second fraction digits missing after \x60.\x60"
  | .badZoneSign => "invalid timezone sign"
  | .badZoneHour => "invalid timezone hour"
  | .badZoneMinute => "invalid timezone minute"
  | .zoneMinuteOutOfRange => "timezone minute value is outside expected range of 0-59"
  | .zoneOutOfRange => "timezone offset must be less than 24 hours"
  | .tooEarly => "dates before 0000 are not supported as unix timestamps"
  | .tooLate => "dates after 9999 are not supported as unix timestamps"
  | .notExact => "unix timestamp to date must be an exact date"
  | .negativeTime => "time in seconds should be positive"
  | .timeTooLarge => "numeric times may not exceed 86,399 seconds"
  | .notANumber => "NaN values not permitted"

end Misfit

structure Date where
  year : Nat
  month : Nat
  day : Nat
  deriving DecidableEq, Repr

structure TimeOfDay where
  second : Nat
  microsecond : Nat
  deriving DecidableEq, Repr

structure Moment where
  date : Date
  time : TimeOfDay
  deriving DecidableEq, Repr

abbrev Bytes := List Nat

def bytesOf (s : String) : Bytes := s.toUTF8.toList.map UInt8.toNat

def digit? (b : Nat) : Option Nat := if 48 ≤ b ∧ b ≤ 57 then some (b - 48) else none

/-- The number that a run of digits spells. -/
def decimal (ds : Bytes) : Nat := ds.foldl (fun n b => 10 * n + (b - 48)) 0

/-- A number of `count` digits, and what follows it. -/
def digits (misfit : Misfit) : Nat → Nat → Bytes → Except Misfit (Nat × Bytes)
  | 0, value, bytes => .ok (value, bytes)
  | count + 1, value, bytes =>
    match bytes with
    | [] => .error misfit
    | b :: rest =>
      match digit? b with
      | some d => digits misfit count (10 * value + d) rest
      | none => .error misfit

/-- Passes one of the bytes given. -/
def mark (misfit : Misfit) (wanted : List Nat) : Bytes → Except Misfit Bytes
  | [] => .error misfit
  | b :: rest => if wanted.contains b then .ok rest else .error misfit

def isLeapYear (year : Nat) : Bool := year % 4 == 0 && (year % 100 != 0 || year % 400 == 0)

def daysIn (year month : Nat) : Nat :=
  if month = 2 then (if isLeapYear year then 29 else 28)
  else if [4, 6, 9, 11].contains month then 30
  else 31

/-- A date at the start of a text, and what follows it. -/
def leadingDate (bytes : Bytes) : Except Misfit (Date × Bytes) := do
  if bytes.length < 10 then throw .tooShort
  let (year, rest) ← digits (.badCharacter .year) 4 0 bytes
  let rest ← mark .badDateSeparator [45] rest
  let (month, rest) ← digits (.badCharacter .month) 2 0 rest
  let rest ← mark .badDateSeparator [45] rest
  let (day, rest) ← digits (.badCharacter .day) 2 0 rest
  if month < 1 || 12 < month then throw .monthOutOfRange
  if day < 1 || daysIn year month < day then throw .dayOutOfRange
  return (⟨year, month, day⟩, rest)

/-- Seconds with their fraction, cut to microseconds, after the minutes. -/
def secondsPart (bytes : Bytes) : Except Misfit (Nat × Nat × Bytes) :=
  match bytes with
  | 58 :: rest => do
    let (second, rest) ← digits (.badCharacter .second) 2 0 rest
    if 59 < second then throw .secondOutOfRange
    match rest with
    | b :: after =>
      if b == 46 || b == 44 then
        let ds := after.takeWhile fun b => (digit? b).isSome
        if ds.isEmpty then throw .fractionMissing
        let kept := (ds ++ List.replicate 6 48).take 6
        let micro := decimal kept
        return (second, micro, after.drop ds.length)
      else return (second, 0, rest)
    | [] => return (second, 0, [])
  | _ => .ok (0, 0, bytes)

/-- The minutes of a time zone, with a colon before them or without. -/
def zoneMinutes (bytes : Bytes) : Except Misfit (Nat × Bytes) :=
  match bytes with
  | 58 :: rest => digits .badZoneMinute 2 0 rest
  | _ => digits .badZoneMinute 2 0 bytes

/-- A time zone, which has to end the text. -/
def zone (bytes : Bytes) : Except Misfit Unit := do
  let rest ← (match bytes with
    | [] => .ok []
    | 90 :: rest | 122 :: rest => .ok rest
    | _ => do
      let rest ← (match bytes with
        | 43 :: rest | 45 :: rest => .ok rest
        | 226 :: 136 :: 146 :: rest => .ok rest
        | _ => .error .badZoneSign)
      let (hour, rest) ← digits .badZoneHour 2 0 rest
      let (minute, rest) ← zoneMinutes rest
      if 59 < minute then throw .zoneMinuteOutOfRange
      if 24 ≤ hour then throw .zoneOutOfRange
      return rest : Except Misfit Bytes)
  if rest.isEmpty then return () else throw .extraCharacters

def timeOfDay (bytes : Bytes) : Except Misfit TimeOfDay := do
  if bytes.length < 5 then throw .tooShort
  let (hour, rest) ← digits (.badCharacter .hour) 2 0 bytes
  let rest ← mark .badTimeSeparator [58] rest
  let (minute, rest) ← digits (.badCharacter .minute) 2 0 rest
  if 23 < hour then throw .hourOutOfRange
  if 59 < minute then throw .minuteOutOfRange
  let (second, micro, rest) ← secondsPart rest
  zone rest
  return ⟨3600 * hour + 60 * minute + second, micro⟩

/-- The date of a day counted from 1970-01-01, by the proleptic calendar. -/
def dateOfDay (days : Int) : Date :=
  let shifted := (days + 719468).toNat
  let era := shifted / 146097
  let dayOfEra := shifted % 146097
  let yearOfEra :=
    (dayOfEra - dayOfEra / 1460 + dayOfEra / 36524 - dayOfEra / 146096) / 365
  let dayOfYear := dayOfEra - (365 * yearOfEra + yearOfEra / 4 - yearOfEra / 100)
  let shiftedMonth := (5 * dayOfYear + 2) / 153
  let day := dayOfYear - (153 * shiftedMonth + 2) / 5 + 1
  let month := if shiftedMonth < 10 then shiftedMonth + 3 else shiftedMonth - 9
  let year := yearOfEra + 400 * era + (if month ≤ 2 then 1 else 0)
  ⟨year, month, day⟩

/-- The first and last second of the years 0 to 9999. -/
def firstSecond : Int := -62167219200
def lastSecond : Int := 253402300799

/-- Counts above this many are taken as milliseconds. -/
def millisecondsFrom : Int := 20000000000

def momentOfSecond (second : Int) (micro : Nat) : Except Misfit Moment :=
  if second < firstSecond then .error .tooEarly
  else if lastSecond < second then .error .tooLate
  else .ok ⟨dateOfDay (second / 86400), ⟨(second % 86400).toNat, micro⟩⟩

/-- The moment that a count stands for, with microseconds added to it. -/
def momentOfCount (count : Int) (micro : Nat) : Except Misfit Moment :=
  let (second, extra) :=
    if count.natAbs ≤ millisecondsFrom.toNat then (count, 0)
    else (count / 1000, (count % 1000).toNat * 1000)
  let total := micro + extra
  momentOfSecond (second + total / 1000000) (total % 1000000)

/-- The microseconds in one unit of a count. -/
def unitMicroseconds (count : Int) : Int :=
  if count.natAbs ≤ millisecondsFrom.toNat then 1000000 else 1000

/-- Whole part of a count, rounded down, and the microseconds of its fraction. A whole part that is
no word counts as the nearest one. -/
def splitCount (x : Binary64) : Except Misfit (Int × Nat) :=
  match x with
  | .nan _ => .error .notANumber
  | .infinite negative => .ok (if negative then -Word.half else Word.half - 1, 0)
  | .finite .. =>
    let q := (x.toRat?).getD 0
    let whole := q.floor
    let fraction := Binary64.ofRat (q - whole) false
    let scaled := fraction.mul (.ofInt (unitMicroseconds whole))
    let micro := ((scaled.toRat?).getD 0 + mkRat 1 2).floor.toNat
    .ok (Word.clamp whole, micro)

def momentOfDouble (x : Binary64) : Except Misfit Moment := do
  let (second, micro) ← splitCount x
  momentOfCount second micro

/-- A sign, digits, perhaps a point and more digits: whether it is negative, and the digits before
and after the point. -/
def countDigits? (bytes : Bytes) : Option (Bool × Bytes × Option Bytes) := do
  let (negative, rest) := match bytes with
    | 45 :: rest => (true, rest)
    | 43 :: rest => (false, rest)
    | _ => (false, bytes)
  let isDigit := fun b => (digit? b).isSome
  let ds := rest.takeWhile isDigit
  if ds.isEmpty then none
  match rest.drop ds.length with
  | [] => return (negative, ds, none)
  | 46 :: fraction => if fraction.all isDigit then return (negative, ds, some fraction) else none
  | _ => none

/-- A text that is a whole number of seconds, without a point; it has to fit a word. -/
def wholeCount? (bytes : Bytes) : Option Int := do
  match ← countDigits? bytes with
  | (negative, ds, none) =>
    let size : Int := decimal ds
    let count := if negative then -size else size
    if Word.isSigned count then return count else none
  | _ => none

/-- A text that is a number with a point, as the double nearest to it. -/
def pointedCount? (bytes : Bytes) : Option Binary64 := do
  match ← countDigits? bytes with
  | (negative, ds, some fraction) =>
    return .ofDecimal negative (decimal (ds ++ fraction)) (-fraction.length)
  | _ => none

/-- The moment that a count in a text stands for. -/
def momentOfCountText? (bytes : Bytes) : Option (Except Misfit Moment) :=
  match wholeCount? bytes with
  | some count => some (momentOfCount count 0)
  | none => (pointedCount? bytes).map momentOfDouble

/-- A date and nothing else, or a count of seconds that is the start of a day. -/
def dateOfText (s : String) : Except Misfit Date :=
  let bytes := bytesOf s
  let plain := do
    let (date, rest) ← leadingDate bytes
    if rest.isEmpty then return date else throw Misfit.extraCharacters
  match plain, wholeCount? bytes with
  | .ok date, _ => .ok date
  | .error e, none => .error e
  | .error _, some count => do
    let moment ← momentOfCount count 0
    if moment.time.second = 0 then return moment.date else throw .notExact

/-- A date and a time of day, or a count of seconds. -/
def momentOfText (s : String) : Except Misfit Moment :=
  let bytes := bytesOf s
  let plain := do
    let (date, rest) ← leadingDate bytes
    let rest ← mark Misfit.badMiddle [84, 116, 32, 95] rest
    return Moment.mk date (← timeOfDay rest)
  match plain, momentOfCountText? bytes with
  | .ok moment, _ => .ok moment
  | .error e, none => .error e
  | .error _, some moment => moment

def timeOfText (s : String) : Except Misfit TimeOfDay := timeOfDay (bytesOf s)

def timeOfSeconds (second : Int) (micro : Nat) : Except Misfit TimeOfDay :=
  let total := second + micro / 1000000
  if second < 0 then .error .negativeTime
  else if 86400 ≤ total then .error .timeTooLarge
  else .ok ⟨total.toNat, micro % 1000000⟩

end Temporal

end FormEngine
