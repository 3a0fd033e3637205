import LogicTutor.Text.Range

/-! White space, and texts cleared of it at both ends. -/
namespace LogicTutor.Text

/-- White space: the separators and the control characters that divide words, lines and records. -/
def blankTable : RangeTable :=
  [(0x9, 0xd), (0x1c, 0x20), (0x85, 0x85), (0xa0, 0xa0), (0x1680, 0x1680), (0x2000, 0x200a),
   (0x2028, 0x2029), (0x202f, 0x202f), (0x205f, 0x205f), (0x3000, 0x3000)]

def isBlank (c : Char) : Bool := blankTable.covers c.toNat

/-- The characters without the white space at their two ends. -/
def trimChars (cs : List Char) : List Char :=
  ((cs.dropWhile isBlank).reverse.dropWhile isBlank).reverse

def trim (s : String) : String := String.ofList (trimChars s.toList)

end LogicTutor.Text
