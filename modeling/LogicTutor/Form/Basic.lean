import LogicTutor.Decimal.Fixed
import LogicTutor.Decimal.Scaled
import LogicTutor.Form.Email
import LogicTutor.Form.Moment
import LogicTutor.Json.Basic

/-! Forms: what fields a request may and must have, and what is said of those that are wrong. All
faults of a request are collected, each under the name of its field. -/
namespace LogicTutor

/-- What a field holds. -/
inductive Shape where
  | text
  | email
  | whole
  | number
  | flag
  | mapping
  | date
  /-- A date with a time of day. -/
  | moment
  | any
  | list (item : Shape)
  /-- An object of optional fields. -/
  | record (fields : List (String × Shape))
  deriving Repr

/-- A further condition on the value of a field. -/
inductive Rule where
  | lengthFrom (least : Nat)
  | lengthTo (most : Nat)
  | length (least most : Nat)
  | oneOf (choices : List String)
  | amongst (choices : List Int)
  deriving DecidableEq, Repr

/-- What becomes of a field that is not given. -/
inductive Presence where
  | required
  | optional
  | filled (default : Json)
  deriving Repr

structure Field where
  name : String
  shape : Shape
  presence : Presence
  rules : List Rule
  deriving Repr

abbrev Form := List Field

/-- What is wrong with a value: messages, or the faults of its parts under their names. -/
inductive Complaint where
  | messages (ms : List String)
  | parts (ps : List (String × Complaint))
  deriving Repr

namespace Complaint

def one (m : String) : Complaint := messages [m]

def missing : Complaint := one "Missing data for required field."

def unknown : Complaint := one "Unknown field."

def null : Complaint := one "Field may not be null."

/-- The request is no object at all. -/
def misshapen : Complaint := parts [("_schema", one "Invalid input type.")]

mutual

def json : Complaint → Json
  | messages ms => .arr (ms.map .str)
  | parts ps => .obj (jsonParts ps)

def jsonParts : List (String × Complaint) → List (String × Json)
  | [] => []
  | (k, c) :: rest => (k, json c) :: jsonParts rest

end

end Complaint

namespace Rule

/-- What is said of a value that breaks the rule. -/
def message : Rule → String
  | lengthFrom n => s!"Shorter than minimum length {n}."
  | lengthTo n => s!"Longer than maximum length {n}."
  | length m n => s!"Length must be between {m} and {n}."
  | oneOf cs => "Must be one of: " ++ ", ".intercalate cs ++ "."
  | amongst ns => "Must be one of: " ++ ", ".intercalate (ns.map toString) ++ "."

def holds : Rule → Json → Bool
  | lengthFrom n, .str s => n ≤ s.length
  | lengthTo n, .str s => s.length ≤ n
  | length m n, .str s => m ≤ s.length && s.length ≤ n
  | oneOf cs, .str s => cs.contains s
  | amongst ns, .int n => ns.contains n
  | _, _ => false

end Rule

/-- The words for yes and no. -/
def yesWords : List String :=
  ["t", "T", "true", "True", "TRUE", "on", "On", "ON", "y", "Y", "yes", "Yes", "YES", "1"]

def noWords : List String :=
  ["f", "F", "false", "False", "FALSE", "off", "Off", "OFF", "n", "N", "no", "No", "NO", "0"]

def readFlag? : Json → Option Bool
  | .bool b => some b
  | .int n => if n = 1 then some true else if n = 0 then some false else none
  | .real x => if x == 1.0 then some true else if x == 0.0 then some false else none
  | .str s => if yesWords.contains s then some true else if noWords.contains s then some false
      else none
  | _ => none

/-- A whole number, from a number cut off at its point or from a text. -/
def readWhole : Json → Except Complaint Json
  | .int n => .ok (.int n)
  | .real x => match Decimal.ofFloat? x with
    | some q => .ok (.int (q.num.tdiv q.den))
    | none => .error (.one (if x.isNaN then "Not a valid integer." else "Number too large."))
  | .str s => match Text.whole? s with
    | some n => .ok (.int n)
    | none => .error (.one "Not a valid integer.")
  | _ => .error (.one "Not a valid integer.")

def finite (x : Float) : Except Complaint Json :=
  if x.isFinite then .ok (.real x)
  else .error (.one "Special numeric values (nan or infinity) are not permitted.")

def readNumber : Json → Except Complaint Json
  | .int n =>
    let x := Decimal.scaled n.natAbs 0
    if x.isFinite then .ok (.real (if n < 0 then -x else x)) else .error (.one "Number too large.")
  | .real x => finite x
  | .str s => match Decimal.number? s with
    | some x => finite x
    | none => .error (.one "Not a valid number.")
  | _ => .error (.one "Not a valid number.")

def orComplain {α : Type} (m : String) : Option α → Except Complaint α
  | some a => .ok a
  | none => .error (.one m)

/-- The fields of a request that the form does not have. -/
def strangers (names : List String) (given : List (String × Json)) : List (String × Complaint) :=
  (given.filter fun g => !names.contains g.1).map fun g => (g.1, .unknown)

namespace Shape

mutual

/-- The value of a field, read from what is given for it. -/
def read : Shape → Json → Except Complaint Json
  | text, .str s => .ok (.str s)
  | text, _ => .error (.one "Not a valid string.")
  | email, .str s =>
    if Email.isValid s then .ok (.str s) else .error (.one "Not a valid email address.")
  | email, _ => .error (.one "Not a valid email address.")
  | whole, v => readWhole v
  | number, v => readNumber v
  | flag, v => (orComplain "Not a valid boolean." (readFlag? v)).map .bool
  | mapping, .obj fs => .ok (.obj fs)
  | mapping, _ => .error (.one "Not a valid mapping type.")
  | date, .str s =>
    (orComplain "Not a valid date." (Moment.date? s)).map fun d => .str (Time.dateText d)
  | date, _ => .error (.one "Not a valid date.")
  | moment, .str s => (orComplain "Not a valid datetime." (Moment.text? s)).map .str
  | moment, _ => .error (.one "Not a valid datetime.")
  | any, v => .ok v
  | list item, .arr vs =>
    match readItems item 0 vs with
    | (xs, []) => .ok (.arr xs)
    | (_, cs) => .error (.parts cs)
  | list _, _ => .error (.one "Not a valid list.")
  | record fields, .obj given =>
    match readFields fields given with
    | (xs, cs) =>
      match cs ++ strangers (fields.map (·.1)) given with
      | [] => .ok (.obj xs)
      | cs => .error (.parts cs)
  | record _, _ => .error .misshapen

/-- The items of a list that are right, and the complaints about the others by their place. -/
def readItems (item : Shape) (i : Nat) : List Json → List Json × List (String × Complaint)
  | [] => ([], [])
  | v :: rest =>
    let r : Except Complaint Json := match v with
      | .null => .error .null
      | v => item.read v
    let (xs, cs) := readItems item (i + 1) rest
    match r with
    | .ok x => (x :: xs, cs)
    | .error c => (xs, (toString i, c) :: cs)

/-- The same for the fields of an object. -/
def readFields : List (String × Shape) → List (String × Json) →
    List (String × Json) × List (String × Complaint)
  | [], _ => ([], [])
  | (name, shape) :: rest, given =>
    let (xs, cs) := readFields rest given
    match Json.field? given name with
    | none => (xs, cs)
    | some .null => (xs, (name, .null) :: cs)
    | some v =>
      match shape.read v with
      | .ok x => ((name, x) :: xs, cs)
      | .error c => (xs, (name, c) :: cs)

end

mutual

/-- A value as a reply tells it: what a record does not name is left out. -/
def tell : Shape → Json → Json
  | list item, .arr vs => .arr (vs.map fun v => item.tell v)
  | record fields, .obj given => .obj (tellFields fields given)
  | _, v => v

def tellFields : List (String × Shape) → List (String × Json) → List (String × Json)
  | [], _ => []
  | (name, shape) :: rest, given =>
    match Json.field? given name with
    | none => tellFields rest given
    | some v => (name, shape.tell v) :: tellFields rest given

end

end Shape

namespace Field

/-- Null is a value of the field: it is what stands for the field when it is not given. -/
def allowsNull (f : Field) : Bool :=
  match f.presence with
  | .filled .null => true
  | _ => false

/-- The value of the field in a request; none if it is not given and need not be. -/
def load (f : Field) (given : Option Json) : Except Complaint (Option Json) :=
  match given with
  | none =>
    match f.presence with
    | .required => .error .missing
    | .optional => .ok none
    | .filled v => .ok (some v)
  | some .null => if f.allowsNull then .ok (some .null) else .error .null
  | some v => do
      let x ← f.shape.read v
      match f.rules.filter fun r => !r.holds x with
      | [] => .ok (some x)
      | broken => .error (.messages (broken.map Rule.message))

end Field

namespace Form

/-- The values of the fields, and the complaints about those that are wrong. -/
def loadFields (given : List (String × Json)) :
    Form → List (String × Json) × List (String × Complaint)
  | [] => ([], [])
  | f :: rest =>
    let (xs, cs) := loadFields given rest
    match f.load (Json.field? given f.name) with
    | .ok none => (xs, cs)
    | .ok (some x) => ((f.name, x) :: xs, cs)
    | .error c => (xs, (f.name, c) :: cs)

/-- The values of a request, if nothing is wrong with it. Unless `lenient`, fields that the form
does not have are wrong too. -/
def load (form : Form) (lenient : Bool) : Json → Except Complaint (List (String × Json))
  | .obj given =>
    let (xs, cs) := loadFields given form
    match cs ++ (if lenient then [] else strangers (form.map Field.name) given) with
    | [] => .ok xs
    | cs => .error (.parts cs)
  | _ => .error .misshapen

end Form

end LogicTutor
