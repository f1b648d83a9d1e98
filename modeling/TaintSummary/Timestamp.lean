import TaintSummary.Unicode.WhiteSpace

/-!
# Timestamps

Which texts are a point in time: a date, `T` or a space, a time of day and a zone. The form is RFC 3339 read leniently: parts
may have fewer digits, blanks may stand between them, and the zone may be written `UTC` or without a colon. Both the date that
is written and the date at that moment in UTC have to be in the range of dates.
-/

namespace TaintSummary.Timestamp

/-- Up to `max` digits at the start of the text, at least one, as a number. -/
def digits? (max : Nat) (t : Text) : Option (Nat × Text) :=
  match (t.take max).takeWhile Char.isDigit with
  | [] => none
  | ds => some (ds.foldl (fun n c => n * 10 + (c.toNat - '0'.toNat)) 0, t.drop ds.length)

/-- The text after the character, which it has to start with. -/
def expect? (c : Char) : Text → Option Text
  | [] => none
  | d :: rest => if d = c then some rest else none

/-- A number after blanks. -/
def part? (t : Text) : Option (Nat × Text) := digits? 2 (Text.trimStart t)

/-- A year: up to four digits, or a sign and any number of them. -/
def year? (t : Text) : Option (Int × Text) :=
  match Text.trimStart t with
  | '-' :: rest => (digits? rest.length rest).map fun (n, r) => (-(n : Int), r)
  | '+' :: rest => (digits? rest.length rest).map fun (n, r) => ((n : Int), r)
  | t => (digits? 4 t).map fun (n, r) => ((n : Int), r)

/-- The number of days of a month in the Gregorian calendar. -/
def daysIn (year : Int) (month : Nat) : Nat :=
  if month = 2 then
    if year % 4 = 0 ∧ (year % 100 ≠ 0 ∨ year % 400 = 0) then 29 else 28
  else if month ∈ [4, 6, 9, 11] then 30
  else 31

/-- A day of the Gregorian calendar. -/
structure Date where
  year : Int
  month : Nat
  day : Nat
  deriving DecidableEq

namespace Date

/-- The first date of the range: years have the range of a day count of 32 bits. -/
def first : Date := ⟨-262143, 1, 1⟩

/-- The last date of the range. -/
def last : Date := ⟨262142, 12, 31⟩

/-- The date exists and is in the range. -/
def isValid (d : Date) : Bool :=
  first.year ≤ d.year && d.year ≤ last.year && 1 ≤ d.month && d.month ≤ 12 && 1 ≤ d.day && d.day ≤ daysIn d.year d.month

/-- The moment so many seconds after the start of the date is in the range: at most a day before or after the date. -/
def reaches (d : Date) (seconds : Int) : Bool :=
  if seconds < 0 then d ≠ first else seconds < 86400 || d ≠ last

end Date

/-- A fraction of a second, if one starts here: the text after it. -/
def skipFraction? : Text → Option Text
  | '.' :: rest =>
    match rest with
    | c :: _ => if c.isDigit then some (rest.dropWhile Char.isDigit) else none
    | [] => none
  | t => some t

/-- Exactly two digits. -/
def twoDigits? : Text → Option (Nat × Text)
  | a :: b :: rest => if a.isDigit && b.isDigit then digits? 2 (a :: b :: rest) else none
  | _ => none

/-- The hours and minutes of an offset below a day, in seconds, and the text after them. -/
def offset? (t : Text) : Option (Int × Text) := do
  let (hours, t) ← twoDigits? t
  let (minutes, t) ← twoDigits? (t.dropWhile fun c => c = ':' || Unicode.isBlank c)
  if hours ≤ 23 ∧ minutes ≤ 59 then return (hours * 3600 + minutes * 60, t) else none

/-- A zone: `Z`, `UTC` or an offset with its sign. Its seconds ahead of UTC, and the text after it. -/
def zone? (t : Text) : Option (Int × Text) :=
  if Text.eqIgnoringCase (t.take 3) "UTC".toList then some (0, t.drop 3)
  else match t with
    | [] => none
    | c :: rest =>
      if c = 'Z' ∨ c = 'z' then some (0, rest)
      else if c = '+' then offset? rest
      else if c = '-' ∨ c = '−' then (offset? rest).map fun (seconds, t) => (-seconds, t)
      else none

/-- A date, and the text after it. -/
def date? (t : Text) : Option (Date × Text) := do
  let (year, t) ← year? t
  let t ← expect? '-' (Text.trimStart t)
  let (month, t) ← part? t
  let t ← expect? '-' (Text.trimStart t)
  let (day, t) ← part? t
  let d : Date := ⟨year, month, day⟩
  if d.isValid then return (d, t) else none

/-- The seconds of a time of day, and the text after it. A minute may have a leap second, which counts as the second before. -/
def timeOfDay? (t : Text) : Option (Int × Text) := do
  let (hour, t) ← part? t
  let t ← expect? ':' (Text.trimStart t)
  let (minute, t) ← part? t
  let t ← expect? ':' (Text.trimStart t)
  let (second, t) ← part? t
  let t ← skipFraction? t
  if hour ≤ 23 ∧ minute ≤ 59 ∧ second ≤ 60 then return (hour * 3600 + minute * 60 + min second 59, t) else none

/-- The text after the mark between date and time. -/
def separator? : Text → Option Text
  | [] => none
  | c :: rest => if c = 'T' ∨ c = 't' ∨ c = ' ' then some rest else none

/-- The text is a point in time. -/
def isTimestamp (t : Text) : Bool :=
  let read := do
    let (date, t) ← date? t
    let t ← separator? t
    let (seconds, t) ← timeOfDay? t
    let (ahead, t) ← zone? (Text.trimStart t)
    return (date.reaches (seconds - ahead), t)
  read.any fun (inRange, rest) => inRange && Text.isBlank rest

end TaintSummary.Timestamp
