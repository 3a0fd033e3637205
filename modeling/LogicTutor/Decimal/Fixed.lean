/-! Numbers written with a fixed number of decimal places. -/
namespace LogicTutor.Decimal

/-- The quotient rounded to a whole number, a half going to the even neighbour. -/
def roundDiv (num : Nat) (den : Nat) : Nat :=
  let q := num / den
  let twice := 2 * (num % den)
  if twice < den then q else if den < twice then q + 1 else q + q % 2

/-- The number in decimal with exactly `places` places behind the point. -/
def fixed (places : Nat) (q : Rat) : String :=
  let n := roundDiv (q.num.natAbs * Nat.pow 10 places) q.den
  let frac := toString (n % Nat.pow 10 places)
  let pad := String.ofList (List.replicate (places - frac.length) '0')
  let sign := if q.num < 0 then "-" else ""
  sign ++ toString (n / Nat.pow 10 places) ++ (if places = 0 then "" else "." ++ pad ++ frac)

/-- The exact value of a binary floating point number; `none` for those that stand for no number. -/
def ofFloat? (x : Float) : Option Rat :=
  let bits := x.toBits.toNat
  let fraction := bits % Nat.pow 2 52
  let exponent := bits / Nat.pow 2 52 % Nat.pow 2 11
  let sign : Int := if bits / Nat.pow 2 63 = 0 then 1 else -1
  if exponent = 2047 then none
  else
    let m := if exponent = 0 then fraction else fraction + Nat.pow 2 52
    let e := if exponent = 0 then 1 else exponent
    some (mkRat (sign * (m * Nat.pow 2 e : Nat)) (Nat.pow 2 1075))

end LogicTutor.Decimal
