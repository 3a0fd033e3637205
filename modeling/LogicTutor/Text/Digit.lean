import LogicTutor.Text.Blank

/-! Decimal digits of all scripts, and the whole numbers that they spell. In each script the ten
digits stand together, from zero to nine. -/
namespace LogicTutor.Text

/-- The zeros of the scripts beyond ASCII. -/
def zeroTable : List Nat :=
  [0x660, 0x6f0, 0x7c0, 0x966, 0x9e6, 0xa66, 0xae6, 0xb66, 0xbe6, 0xc66, 0xce6, 0xd66, 0xde6,
   0xe50, 0xed0, 0xf20, 0x1040, 0x1090, 0x17e0, 0x1810, 0x1946, 0x19d0, 0x1a80, 0x1a90, 0x1b50,
   0x1bb0, 0x1c40, 0x1c50, 0xa620, 0xa8d0, 0xa900, 0xa9d0, 0xa9f0, 0xaa50, 0xabf0, 0xff10,
   0x104a0, 0x10d30, 0x11066, 0x110f0, 0x11136, 0x111d0, 0x112f0, 0x11450, 0x114d0, 0x11650,
   0x116c0, 0x11730, 0x118e0, 0x11950, 0x11c50, 0x11d50, 0x11da0, 0x16a60, 0x16ac0, 0x16b50,
   0x1d7ce, 0x1d7d8, 0x1d7e2, 0x1d7ec, 0x1d7f6, 0x1e140, 0x1e2f0, 0x1e950, 0x1fbf0]

/-- The value of a digit. -/
def digitValue? (c : Char) : Option Nat :=
  if c.toNat < 128 then if c.isDigit then some (c.toNat - '0'.toNat) else none
  else (zeroTable.find? fun z => z ≤ c.toNat && c.toNat < z + 10).map (c.toNat - ·)

def isDigit (c : Char) : Bool := (digitValue? c).isSome

/-- The number that digits spell; what is no digit counts as zero. -/
def numberOf (cs : List Char) : Nat :=
  cs.foldl (fun n c => n * 10 + (digitValue? c).getD 0) 0

/-- No number is read from more digits than this. -/
def digitLimit : Nat := 4300

/-- The digits of a numeral in which single underscores may part them. -/
def digitsOf? : List Char → Option (List Char)
  | [] => none
  | [c] => if isDigit c then some [c] else none
  | c :: '_' :: rest => if isDigit c then (digitsOf? rest).map (c :: ·) else none
  | c :: rest => if isDigit c then (digitsOf? rest).map (c :: ·) else none

/-- A whole number, with an optional sign and with white space around it. -/
def whole? (s : String) : Option Int := do
  let (negative, ds) := match trimChars s.toList with
    | '-' :: rest => (true, rest)
    | '+' :: rest => (false, rest)
    | cs => (false, cs)
  let ds ← digitsOf? ds
  guard (ds.length ≤ digitLimit)
  return if negative then -(numberOf ds : Int) else numberOf ds

end LogicTutor.Text
