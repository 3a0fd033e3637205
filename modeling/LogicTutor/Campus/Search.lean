/-! Looking for a piece of text. In what is looked for, a percent sign stands for any characters
and a low line for any one. Only the case of ASCII letters is ignored. -/
namespace LogicTutor.Search

def suffixes : List Char → List (List Char)
  | [] => [[]]
  | c :: cs => (c :: cs) :: suffixes cs

/-- The whole text fits the pattern. -/
def fits : List Char → List Char → Bool
  | [], cs => cs.isEmpty
  | '%' :: ps, cs => (suffixes cs).any (fits ps)
  | '_' :: ps, _ :: cs => fits ps cs
  | p :: ps, c :: cs => p.toLower = c.toLower && fits ps cs
  | _ :: _, [] => false

/-- What is looked for occurs in the text. -/
def occurs (needle text : String) : Bool := fits ('%' :: needle.toList ++ ['%']) text.toList

end LogicTutor.Search
