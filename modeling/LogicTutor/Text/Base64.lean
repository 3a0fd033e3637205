/-! Bytes written with 64 characters that are safe in addresses, six bits to a character. -/
namespace LogicTutor.Text.Base64

/-- The character for six bits. -/
def digit (n : Nat) : Char :=
  if n < 26 then Char.ofNat (n + 'A'.toNat)
  else if n < 52 then Char.ofNat (n - 26 + 'a'.toNat)
  else if n < 62 then Char.ofNat (n - 52 + '0'.toNat)
  else if n = 62 then '-' else '_'

/-- The bytes in writing, without padding at the end. -/
def encode : List UInt8 → List Char
  | a :: b :: c :: rest =>
    let n := a.toNat * 65536 + b.toNat * 256 + c.toNat
    digit (n / 262144) :: digit (n / 4096 % 64) :: digit (n / 64 % 64) :: digit (n % 64) :: encode rest
  | [a, b] =>
    let n := a.toNat * 1024 + b.toNat * 4
    [digit (n / 4096), digit (n / 64 % 64), digit (n % 64)]
  | [a] => [digit (a.toNat / 4), digit (a.toNat % 4 * 16)]
  | [] => []

/-- The six bits of a character of either alphabet. -/
def value? (c : UInt8) : Option Nat :=
  let n := c.toNat
  if 65 ≤ n ∧ n ≤ 90 then some (n - 65)
  else if 97 ≤ n ∧ n ≤ 122 then some (n - 71)
  else if 48 ≤ n ∧ n ≤ 57 then some (n + 4)
  else if n = 45 ∨ n = 43 then some 62
  else if n = 95 ∨ n = 47 then some 63
  else none

/-- Reads on after `quad` characters of a group of four, with `bits` left of them, and `pads`
padding characters since the last one. Characters of no meaning are passed over, and nothing is
read behind a padding that completes a group. -/
def decodeFrom (quad pads bits : Nat) : List UInt8 → Option (List UInt8)
  | [] => if quad = 0 then some [] else none
  | c :: rest =>
    if c = 61 then
      if quad < 2 then decodeFrom quad pads bits rest
      else if 4 ≤ quad + pads + 1 then some []
      else decodeFrom quad (pads + 1) bits rest
    else
      match value? c with
      | none => decodeFrom quad pads bits rest
      | some v =>
        match quad with
        | 0 => decodeFrom 1 0 v rest
        | 1 => (decodeFrom 2 0 (v % 16) rest).map (UInt8.ofNat (bits * 4 + v / 16) :: ·)
        | 2 => (decodeFrom 3 0 (v % 4) rest).map (UInt8.ofNat (bits * 16 + v / 4) :: ·)
        | _ => (decodeFrom 0 0 0 rest).map (UInt8.ofNat (bits * 64 + v) :: ·)

/-- The bytes that a text spells, after it was padded to whole groups of four. -/
def decode? (cs : List UInt8) : Option (List UInt8) :=
  decodeFrom 0 0 0 (cs ++ List.replicate ((4 - cs.length % 4) % 4) 61)

end LogicTutor.Text.Base64
