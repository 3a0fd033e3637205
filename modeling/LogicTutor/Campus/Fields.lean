import LogicTutor.Json.Basic

/-! Reading the fields of a request. A field can be missing, null, or have a value, and different
requests tell these apart in different ways. -/
namespace LogicTutor

abbrev Fields := List (String × Json)

namespace Fields

variable (fs : Fields) (key : String)

/-- The text of a field; none if it is missing or null. -/
def text? : Option String := (Json.field? fs key).bind Json.str?

/-- The text of a field that has one which is not empty. -/
def given? : Option String := (text? fs key).filter (!·.isEmpty)

def whole? : Option Int := (Json.field? fs key).bind Json.int?

def flag? : Option Bool := (Json.field? fs key).bind Json.bool?

/-- The value of a field that is neither missing nor null. -/
def value? : Option Json := (Json.field? fs key).filter (!·.isNull)

/-- The field is there: its text, or null. -/
def namedText? : Option (Option String) := (Json.field? fs key).map Json.str?

def namedWhole? : Option (Option Int) := (Json.field? fs key).map Json.int?

def namedFlag? : Option (Option Bool) := (Json.field? fs key).map Json.bool?

end Fields

end LogicTutor
