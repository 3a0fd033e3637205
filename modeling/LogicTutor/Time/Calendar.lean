/-! Days and times of the proleptic Gregorian calendar, in seconds since the start of 1970. -/
namespace LogicTutor

/-- Seconds since the start of 1970, without leap seconds. -/
abbrev Instant := Int

structure Date where
  year : Int
  month : Nat
  day : Nat
  deriving DecidableEq, Repr

namespace Date

/-- The date with the number `n`, counted from the first day of 1970. Years are taken to begin
with March, so that the leap day comes last. -/
def ofDayNumber (n : Int) : Date :=
  let z := n + 719468
  let era := z / 146097
  let dayOfEra := (z % 146097).toNat
  let yearOfEra := (dayOfEra - dayOfEra / 1460 + dayOfEra / 36524 - dayOfEra / 146096) / 365
  let dayOfYear := dayOfEra - (365 * yearOfEra + yearOfEra / 4 - yearOfEra / 100)
  let shifted := (5 * dayOfYear + 2) / 153
  let day := dayOfYear - (153 * shifted + 2) / 5 + 1
  let month := if shifted < 10 then shifted + 3 else shifted - 9
  let year := (yearOfEra : Int) + era * 400
  ⟨if month ≤ 2 then year + 1 else year, month, day⟩

def isLeap (year : Int) : Bool :=
  year % 4 = 0 && (year % 100 != 0 || year % 400 = 0)

def monthLength (year : Int) : Nat → Nat
  | 2 => if isLeap year then 29 else 28
  | 4 | 6 | 9 | 11 => 30
  | _ => 31

/-- The month and the day exist. -/
def isValid (d : Date) : Bool :=
  1 ≤ d.month && d.month ≤ 12 && 1 ≤ d.day && d.day ≤ monthLength d.year d.month

end Date

namespace Time

/-- A number in decimal, filled up with zeros to a width. -/
def padded (width : Nat) (n : Nat) : String :=
  let ds := Nat.toDigits 10 n
  String.ofList (List.replicate (width - ds.length) '0' ++ ds)

/-- Year, month and day, with hyphens. -/
def dateText (d : Date) : String :=
  s!"{padded 4 d.year.toNat}-{padded 2 d.month}-{padded 2 d.day}"

/-- Date and time of day, with the letter T between them. -/
def text (t : Instant) : String :=
  let s := (t % 86400).toNat
  s!"{dateText (.ofDayNumber (t / 86400))}T{padded 2 (s / 3600)}:{padded 2 (s / 60 % 60)}:{padded 2 (s % 60)}"

/-- The same, with the offset of the time zone. -/
def zonedText (t : Instant) : String := text t ++ "+00:00"

/-- The first second of 2024. -/
def start2024 : Instant := 1704067200

end Time

end LogicTutor
