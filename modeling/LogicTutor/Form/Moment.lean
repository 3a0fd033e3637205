import LogicTutor.Text.Digit
import LogicTutor.Time.Calendar

/-! Dates, and dates with a time of day, read from their common written form. -/
namespace LogicTutor.Moment

/-- At least `least` and at most `most` digits at the front, as many as there are, and the rest. -/
def digits? (least most : Nat) (cs : List Char) : Option (List Char × List Char) :=
  let ds := (cs.take most).takeWhile Text.isDigit
  if least ≤ ds.length then some (ds, cs.drop ds.length) else none

def number? (least most : Nat) (cs : List Char) : Option (Nat × List Char) :=
  (digits? least most cs).map fun (ds, rest) => (Text.numberOf ds, rest)

def past? (c : Char) : List Char → Option (List Char)
  | d :: rest => if d = c then some rest else none
  | [] => none

/-- The text ends here, but for a line break. -/
def isEnd (cs : List Char) : Bool := cs = [] || cs = ['\n']

/-- Year, month and day with hyphens, and the rest. -/
def dateAt? (cs : List Char) : Option (Date × List Char) := do
  let (y, cs) ← number? 4 4 cs
  let (m, cs) ← number? 1 2 (← past? '-' cs)
  let (d, cs) ← number? 1 2 (← past? '-' cs)
  let date : Date := ⟨y, m, d⟩
  guard (1 ≤ y && date.isValid)
  return (date, cs)

def date? (s : String) : Option Date := do
  let (d, rest) ← dateAt? s.toList
  guard (isEnd rest)
  return d

/-- The offset of a time zone in minutes, if one is given, and the rest. -/
def zone? (cs : List Char) : Option (Option Int × List Char) :=
  let offset := fun (sign : Int) (cs : List Char) => do
    let (h, cs) ← number? 2 2 cs
    let minutes := match cs with
      | ':' :: rest => number? 2 2 rest
      | _ => number? 2 2 cs
    let (m, cs) := minutes.getD (0, cs)
    guard (60 * h + m < 1440)
    return (some (sign * (60 * h + m : Nat)), cs)
  match cs with
  | 'Z' :: rest => some (some 0, rest)
  | '+' :: rest => offset 1 rest
  | '-' :: rest => offset (-1) rest
  | _ => some (none, cs)

/-- Seconds and millionths, if they are given, and the rest. -/
def seconds? (cs : List Char) : Option (Nat × Nat × List Char) :=
  match cs with
  | ':' :: rest => do
      let (s, rest) ← number? 1 2 rest
      match rest with
      | '.' :: more =>
        match digits? 1 12 more with
        | some (ds, rest) =>
          let six := ds.take 6
          return (s, Text.numberOf (six ++ List.replicate (6 - six.length) '0'), rest)
        | none => return (s, 0, rest)
      | _ => return (s, 0, rest)
  | _ => some (0, 0, cs)

def zoneText (offset : Int) : String :=
  let n := offset.natAbs
  (if offset < 0 then "-" else "+") ++ Time.padded 2 (n / 60) ++ ":" ++ Time.padded 2 (n % 60)

/-- A date with a time of day, in full form. -/
def text? (s : String) : Option String := do
  let (d, cs) ← dateAt? s.toList
  let cs ← match cs with
    | 'T' :: rest | ' ' :: rest => some rest
    | _ => none
  let (h, cs) ← number? 1 2 cs
  let (m, cs) ← number? 1 2 (← past? ':' cs)
  let (sec, micro, cs) ← seconds? cs
  let (zone, cs) ← zone? cs
  guard (isEnd cs && h < 24 && m < 60 && sec < 60)
  let fraction := if micro = 0 then "" else "." ++ Time.padded 6 micro
  return s!"{Time.dateText d}T{Time.padded 2 h}:{Time.padded 2 m}:{Time.padded 2 sec}" ++
    fraction ++ zone.elim "" zoneText

end LogicTutor.Moment
