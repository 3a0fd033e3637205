import LogicTutor.Decimal.Fixed

/-! The shortest decimal that reads back as a given binary floating point number. -/
namespace LogicTutor.Decimal

/-- A positive decimal: the digits, and the power of ten by which the point stands before them. -/
structure Scientific where
  digits : Nat
  places : Nat
  exponent : Int
  deriving DecidableEq, Repr

/-- The power of ten above a positive number: the least `k` with `v < 10 ^ k`. -/
def magnitude (v : Rat) : Int :=
  if 1 ≤ v then ((Nat.toDigits 10 v.floor.toNat).length : Int)
  else -(((List.range 400).find? fun j => 1 ≤ v * 10 ^ (j + 1)).getD 0 : Nat)

/-- Of the two decimals with `n` digits around `v`, the nearer one between the bounds, which count
as inside if `closed`. A tie goes to the even one. -/
def nearest? (v low high : Rat) (closed : Bool) (k : Int) (n : Nat) : Option Nat :=
  let unit : Rat := if 0 ≤ k - n then (10 : Rat) ^ (k - n).toNat else 1 / (10 : Rat) ^ (n - k).toNat
  let inside := fun (d : Nat) => let x := (d : Rat) * unit
    if closed then decide (low ≤ x ∧ x ≤ high) else decide (low < x ∧ x < high)
  let below := (v / unit).floor.toNat
  let gap := v / unit - below
  match inside below, inside (below + 1) with
  | true, true =>
    if gap < 1 / 2 ∨ (gap = 1 / 2 ∧ below % 2 = 0) then some below else some (below + 1)
  | true, false => some below
  | false, true => some (below + 1)
  | false, false => none

/-- The fewest digits that read back as the number, which is `m` times the power of two with the
exponent `e - 1075`. -/
def shortest (m e : Nat) : Scientific :=
  let step : Rat := mkRat (Nat.pow 2 e) (Nat.pow 2 1075)
  let v := (m : Rat) * step
  let low := if m = Nat.pow 2 52 ∧ 1 < e then v - step / 4 else v - step / 2
  let k := magnitude v
  let found := (List.range 17).findSome? fun n =>
    (nearest? v low (v + step / 2) (m % 2 = 0) k (n + 1)).map fun d => (d, n + 1)
  let (d, n) := found.getD (0, 1)
  if d = Nat.pow 10 n then ⟨1, 1, k + 1⟩ else ⟨d, n, k⟩

/-- Positional from a ten-thousandth up to ten to the sixteenth, else with an exponent of two or
more digits; a whole number keeps one zero behind the point. -/
def Scientific.text (s : Scientific) : String :=
  let ds := Nat.toDigits 10 s.digits
  let e := s.exponent - 1
  let zeros := fun (n : Int) => List.replicate n.toNat '0'
  String.ofList <|
    if -4 ≤ e ∧ e < 16 then
      if s.exponent ≤ 0 then ['0', '.'] ++ zeros (-s.exponent) ++ ds
      else if s.exponent < ds.length then
        ds.take s.exponent.toNat ++ '.' :: ds.drop s.exponent.toNat
      else ds ++ zeros (s.exponent - ds.length) ++ ['.', '0']
    else
      let size := Nat.toDigits 10 e.natAbs
      let mantissa := match ds with
        | [d] => [d]
        | d :: rest => d :: '.' :: rest
        | [] => []
      mantissa ++ ['e', if e < 0 then '-' else '+'] ++ zeros (2 - size.length) ++ size

/-- A number in the fewest digits that read back. -/
def floatText (x : Float) : String :=
  let bits := x.toBits.toNat
  let fraction := bits % Nat.pow 2 52
  let exponent := bits / Nat.pow 2 52 % Nat.pow 2 11
  let sign := if bits / Nat.pow 2 63 = 0 then "" else "-"
  if exponent = 2047 then if fraction = 0 then sign ++ "Infinity" else "NaN"
  else if exponent = 0 then
    sign ++ if fraction = 0 then "0.0" else (shortest fraction 1).text
  else sign ++ (shortest (fraction + Nat.pow 2 52) exponent).text

end LogicTutor.Decimal
