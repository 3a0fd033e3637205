import LogicTutor.Text.Digit

/-! Floating point numbers read from decimals. -/
namespace LogicTutor.Decimal

/-- The floating point number nearest to `m` times ten to the power `e`. Beyond the range of such
numbers it is infinite or zero. -/
def scaled (m : Nat) (e : Int) : Float :=
  let size := ((Nat.toDigits 10 m).length : Int) + e
  if m = 0 ∨ size < -400 then 0.0
  else if 400 < size then 1.0 / 0.0
  else if 0 ≤ e then Float.ofScientific m false e.toNat
  else Float.ofScientific m true (-e).toNat

/-- Digits, possibly parted by single underscores, at the front of the text, and what follows. -/
def digitsAt (cs : List Char) : List Char × List Char :=
  match cs with
  | c :: '_' :: d :: rest =>
    if Text.isDigit c && Text.isDigit d then
      let (ds, rest) := digitsAt (d :: rest)
      (c :: ds, rest)
    else if Text.isDigit c then ([c], '_' :: d :: rest)
    else ([], cs)
  | c :: rest =>
    if Text.isDigit c then
      let (ds, rest) := digitsAt rest
      (c :: ds, rest)
    else ([], cs)
  | [] => ([], [])

/-- A whole number with an optional sign that takes up the rest of the text. -/
def exponent? : List Char → Option Int
  | '-' :: cs => (unsigned cs).map fun n => -(n : Int)
  | '+' :: cs => (unsigned cs).map fun n => (n : Int)
  | cs => (unsigned cs).map fun n => (n : Int)
where
  unsigned (cs : List Char) : Option Nat :=
    match digitsAt cs with
    | (d :: ds, []) => some (Text.numberOf (d :: ds))
    | _ => none

/-- A number without its sign: digits with an optional point and an optional exponent, or one of
the words for what is no number. -/
def magnitude? (cs : List Char) : Option Float :=
  match String.ofList (cs.map Char.toLower) with
  | "inf" | "infinity" => some (1.0 / 0.0)
  | "nan" => some (0.0 / 0.0)
  | _ =>
    let (whole, rest) := digitsAt cs
    let (frac, rest) := match rest with
      | '.' :: rest => digitsAt rest
      | _ => ([], rest)
    let tail? : Option Int := match rest with
      | [] => some 0
      | 'e' :: rest | 'E' :: rest => exponent? rest
      | _ => none
    if whole.isEmpty && frac.isEmpty then none
    else tail?.map fun e => scaled (Text.numberOf (whole ++ frac)) (e - frac.length)

/-- The number that a text spells, with an optional sign and with white space around it. -/
def number? (s : String) : Option Float :=
  match Text.trimChars s.toList with
  | '-' :: cs => (magnitude? cs).map (-·)
  | '+' :: cs => magnitude? cs
  | cs => magnitude? cs

end LogicTutor.Decimal
