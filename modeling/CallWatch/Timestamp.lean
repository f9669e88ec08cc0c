import CallWatch.Number.Integer

/-! Moments of civil time and their RFC 3339 text. A moment that the format cannot hold, with a year
outside four digits or an offset that is no number of minutes below a day, has no text. -/

namespace CallWatch

/-- A moment, in seconds and nanoseconds after the beginning of 1970 in UTC, and the offset in
seconds of the zone in which it is shown. -/
structure Timestamp where
  seconds : Int
  nanos : Fin 1000000000
  offset : Int
  deriving DecidableEq

structure CivilDate where
  year : Int
  month : Nat
  day : Nat
  deriving DecidableEq

/-- The date of the day that lies `days` after the first of January 1970. Years are counted from
March, so that the leap day ends one, in eras of 400 years. -/
def CivilDate.ofDays (days : Int) : CivilDate :=
  let shifted := days + 719468
  let era := shifted / 146097
  let dayOfEra := (shifted % 146097).toNat
  let yearOfEra := (dayOfEra - dayOfEra / 1460 + dayOfEra / 36524 - dayOfEra / 146096) / 365
  let dayOfYear := dayOfEra - (365 * yearOfEra + yearOfEra / 4 - yearOfEra / 100)
  let marchMonth := (5 * dayOfYear + 2) / 153
  let day := dayOfYear - (153 * marchMonth + 2) / 5 + 1
  let month := if marchMonth < 10 then marchMonth + 3 else marchMonth - 9
  ⟨yearOfEra + era * 400 + if month ≤ 2 then 1 else 0, month, day⟩

/-- The part of a moment that the RFC 3339 format cannot hold. -/
inductive TimestampError
  | year
  | offsetHour
  | offsetSecond
  deriving DecidableEq

def TimestampError.message (e : TimestampError) : String :=
  let part := match e with
    | .year => "year"
    | .offsetHour => "offset_hour"
    | .offsetSecond => "offset_second"
  "The " ++ part ++ " component cannot be formatted into the requested format."

namespace Timestamp

/-- The beginning of 1970. -/
def epoch : Timestamp :=
  ⟨0, 0, 0⟩

/-- A number with at least `width` digits. -/
def padded (width n : Nat) : List Char :=
  let digits := decimal n
  List.replicate (width - digits.length) '0' ++ digits

/-- The decimal places of the second, without the zeros at their end. -/
def fraction (nanos : Nat) : List Char :=
  match ((padded 9 nanos).reverse.dropWhile (· = '0')).reverse with
  | [] => []
  | places => '.' :: places

/-- The offset of the zone in hours and minutes, or the letter Z for none. -/
def zone (offset : Int) : List Char :=
  if offset = 0 then ['Z']
  else
    let minutes := offset.natAbs / 60
    (if offset < 0 then '-' else '+') :: padded 2 (minutes / 60) ++ ':' :: padded 2 (minutes % 60)

def date (t : Timestamp) : CivilDate :=
  CivilDate.ofDays ((t.seconds + t.offset) / 86400)

/-- The RFC 3339 text of a moment. -/
def write (t : Timestamp) : Except TimestampError (List Char) :=
  let date := t.date
  let time := ((t.seconds + t.offset) % 86400).toNat
  if date.year < 0 ∨ 9999 < date.year then .error .year
  else if 24 * 3600 ≤ t.offset.natAbs then .error .offsetHour
  else if t.offset.natAbs % 60 ≠ 0 then .error .offsetSecond
  else
    .ok (padded 4 date.year.toNat ++ '-' :: padded 2 date.month ++ '-' :: padded 2 date.day ++
      'T' :: padded 2 (time / 3600) ++ ':' :: padded 2 (time / 60 % 60) ++ ':' ::
      padded 2 (time % 60) ++ fraction t.nanos ++ zone t.offset)

end Timestamp

end CallWatch
