import ParenTokens.Yaml.Fault

namespace ParenTokens.Yaml

/-!
# Timestamps

A timestamp is a date of the Gregorian calendar, or a date with a time of day, which may know its distance from
universal time.

* `Stamp`, `Stamp.parse?`: the written form, with its digits.
* `Date`, `TimeOfDay`, `Timestamp`: the values.
* `Stamp.toTimestamp`: the value, or the first field that is out of range.
* `Timestamp.display`: its text.
* `Timestamp.same`: whether two timestamps are the same; with distances they are compared in universal time.
-/

/-! ### The written form -/

/-- A distance from universal time as written: its sign, the hours, and perhaps the minutes. -/
structure WrittenOffset where
  negative : Bool
  hour : Text
  minute : Text
deriving DecidableEq, Repr

/-- A time of day as written. An `offset` of zero can be written as the letter Z. -/
structure WrittenTime where
  hour : Text
  minute : Text
  second : Text
  fraction : Text
  offset : Option WrittenOffset
deriving DecidableEq, Repr

/-- A timestamp as written, each field by its digits. -/
structure Stamp where
  year : Text
  month : Text
  day : Text
  time : Option WrittenTime
deriving DecidableEq, Repr

namespace Stamp

/-- From `least` to `most` digits at the front of a text, and what follows them. -/
def takeDigits? (least most : Nat) (t : Text) : Option (Text × Text) :=
  let ds := (t.take most).takeWhile CodePoint.isAsciiDigit
  if ds.length < least then none else some (ds, t.drop ds.length)

/-- What follows a code point at the front of a text. -/
def after? (c : CodePoint) : Text → Option Text
  | [] => none
  | d :: t => if d = c then some t else none

/-- Whether nothing follows but perhaps one line feed. -/
def isOver (t : Text) : Bool := t.isEmpty || t == [CodePoint.ofChar '\n']

def isBlankSign (c : CodePoint) : Bool := c == ' ' || c == '\t'

/-- The distance at the end of a text, which starts behind the blanks before it. -/
def parseOffset? (t : Text) : Option WrittenOffset :=
  match t with
  | [] => none
  | c :: rest =>
    if c == 'Z' then if isOver rest then some ⟨false, [], []⟩ else none
    else if c == '+' || c == '-' then do
      let (hour, rest) ← takeDigits? 1 2 rest
      let offset : Text → WrittenOffset := fun minute => ⟨c == '-', hour, minute⟩
      match after? ':' rest with
      | none => if isOver rest then some (offset []) else none
      | some rest =>
        let (minute, rest) ← takeDigits? 2 2 rest
        if isOver rest then some (offset minute) else none
    else none

/-- The time of day at the end of a text, which starts behind what parts it from the date. -/
def parseTime? (t : Text) : Option WrittenTime := do
  let (hour, t) ← takeDigits? 1 2 t
  let (minute, t) ← takeDigits? 2 2 (← after? ':' t)
  let (second, t) ← takeDigits? 2 2 (← after? ':' t)
  let (fraction, t) := match after? '.' t with
    | none => ([], t)
    | some t => (t.takeWhile CodePoint.isAsciiDigit, t.dropWhile CodePoint.isAsciiDigit)
  if isOver t then some ⟨hour, minute, second, fraction, none⟩
  else do
    let offset ← parseOffset? (t.dropWhile isBlankSign)
    some ⟨hour, minute, second, fraction, some offset⟩

/-- What parts a time from a date: the letter T, or blanks. -/
def afterDate? : Text → Option Text
  | [] => none
  | c :: t =>
    if c == 'T' || c == 't' then some t
    else if isBlankSign c then some (t.dropWhile isBlankSign)
    else none

/-- The timestamp that is written, if it is one. -/
def parse? (t : Text) : Option Stamp := do
  let (year, t) ← takeDigits? 4 4 t
  let (month, t) ← takeDigits? 1 2 (← after? '-' t)
  let (day, t) ← takeDigits? 1 2 (← after? '-' t)
  if isOver t then some ⟨year, month, day, none⟩
  else some ⟨year, month, day, some (← parseTime? (← afterDate? t))⟩

/-- A date that is written without a tag is a timestamp only with two digits for the month and for the day. -/
def isImplicit (s : Stamp) : Bool := s.time.isSome || (s.month.length == 2 && s.day.length == 2)

end Stamp

/-! ### Values -/

/-- A day of the Gregorian calendar. -/
structure Date where
  year : Nat
  month : Nat
  day : Nat
deriving DecidableEq, Repr

/-- A time of day, perhaps with its distance from universal time in minutes. -/
structure TimeOfDay where
  hour : Nat
  minute : Nat
  second : Nat
  microsecond : Nat
  offset : Option Int
deriving DecidableEq, Repr

/-- A day, or a moment of a day. -/
structure Timestamp where
  date : Date
  time : Option TimeOfDay
deriving DecidableEq, Repr

namespace Date

def isLeap (year : Nat) : Bool := year % 4 == 0 && (year % 100 != 0 || year % 400 == 0)

/-- How many days a month has; zero if there is no such month. -/
def daysIn (year month : Nat) : Nat :=
  if month == 2 then if isLeap year then 29 else 28
  else if [4, 6, 9, 11].contains month then 30
  else if 1 ≤ month && month ≤ 12 then 31
  else 0

/-- The number of days from the start of year one to the start of a year. -/
def daysBeforeYear (year : Nat) : Nat :=
  let y := year - 1
  y * 365 + y / 4 - y / 100 + y / 400

/-- The number of a day, counted from the start of year one. -/
def ordinal (d : Date) : Nat :=
  (List.range d.month).foldl (fun days month => days + daysIn d.year month) (daysBeforeYear d.year) + d.day

/-- The first field that is out of range. -/
def check (d : Date) : Except Refusal Unit :=
  if d.year = 0 then .error (.dateField .year)
  else if d.month = 0 || 12 < d.month then .error (.dateField .month)
  else if d.day = 0 || daysIn d.year d.month < d.day then .error (.dateField .day)
  else .ok ()

end Date

/-- The first field that is out of range. -/
def TimeOfDay.check (t : TimeOfDay) : Except Refusal Unit :=
  if 23 < t.hour then .error (.dateField .hour)
  else if 59 < t.minute then .error (.dateField .minute)
  else if 59 < t.second then .error (.dateField .second)
  else .ok ()

def Stamp.number (ds : Text) : Nat := Decimal.ofDigits (ds.map fun c => c.val - 0x30)

/-- The first six digits after the point, with zeros for those that are missing. -/
def Stamp.microseconds (fraction : Text) : Nat :=
  number (fraction.take 6) * Nat.pow 10 (6 - fraction.length)

def minutesPerDay : Nat := 24 * 60

/-- The distance in minutes; it must be less than a day. -/
def WrittenOffset.minutes (o : WrittenOffset) : Except Refusal Int :=
  let distance := Stamp.number o.hour * 60 + Stamp.number o.minute
  let signed : Int := if o.negative then -(distance : Int) else distance
  if distance < minutesPerDay then .ok signed
  else .error (.offset (signed.fdiv minutesPerDay) ((signed.fmod minutesPerDay).toNat * 60))

/-- The value of a written timestamp. -/
def Stamp.toTimestamp (s : Stamp) : Except Refusal Timestamp := do
  let date : Date := ⟨number s.year, number s.month, number s.day⟩
  match s.time with
  | none =>
    date.check
    return ⟨date, none⟩
  | some t =>
    let offset ← t.offset.mapM WrittenOffset.minutes
    let time : TimeOfDay :=
      ⟨number t.hour, number t.minute, number t.second, microseconds t.fraction, offset⟩
    date.check
    time.check
    return ⟨date, some time⟩

/-! ### Texts -/

namespace Timestamp

def displayDate (d : Date) : Text :=
  Decimal.padded 4 d.year ++ ("-" : Text) ++ Decimal.padded 2 d.month ++ ("-" : Text) ++ Decimal.padded 2 d.day

def displayOffset (minutes : Int) : Text :=
  let sign : Text := if minutes < 0 then "-" else "+"
  sign ++ Decimal.padded 2 (minutes.natAbs / 60) ++ (":" : Text) ++ Decimal.padded 2 (minutes.natAbs % 60)

def displayTime (t : TimeOfDay) : Text :=
  Decimal.padded 2 t.hour ++ (":" : Text) ++ Decimal.padded 2 t.minute ++ (":" : Text) ++ Decimal.padded 2 t.second ++
    (if t.microsecond = 0 then [] else ("." : Text) ++ Decimal.padded 6 t.microsecond) ++
    (match t.offset with
    | none => []
    | some minutes => displayOffset minutes)

def display (t : Timestamp) : Text :=
  match t.time with
  | none => displayDate t.date
  | some time => displayDate t.date ++ (" " : Text) ++ displayTime time

/-- The microseconds from the start of year one to a moment in universal time. -/
def universal (d : Date) (t : TimeOfDay) (offset : Int) : Int :=
  (((d.ordinal : Int) * 24 * 60 + t.hour * 60 + t.minute - offset) * 60 + t.second) * 1000000 + t.microsecond

/-- Whether two timestamps are the same. One that knows its distance is never the same as one that does not. -/
def same (a b : Timestamp) : Bool :=
  match a.time, b.time with
  | none, none => a.date == b.date
  | some s, some t =>
    match s.offset, t.offset with
    | none, none => a == b
    | some o, some p => universal a.date s o == universal b.date t p
    | _, _ => false
  | _, _ => false

end Timestamp

end ParenTokens.Yaml
