import LogicTutor.Form.Admin

/-! The forms of the students' side and of the prover, and the records of their replies. -/
namespace LogicTutor.Form

def signUp : Form :=
  [required "name" .text [.length 2 100], required "email" .email [],
   required "password" .text [.lengthFrom 6], required "confirm_password" .text [],
   optional "registration_number" .text [], required "access_code" .text []]

def profileChange : Form := [required "name" .text [.length 2 100], required "email" .email []]

def passwordChange : Form :=
  [required "current_password" .text [], required "new_password" .text [.lengthFrom 6],
   required "confirm_password" .text []]

/-- How a student looks for questions. -/
def questionSearch : Form :=
  [nullable "math_area_id" .text [], nullable "math_subarea_id" .text [],
   nullable "difficulty" .text [.oneOf difficulties], nullable "search" .text []]

def newAnswer : Form :=
  [required "content" .text [.lengthFrom 1], nullable "content_latex" .text []]

def proofRequest : Form :=
  [required "proposition1" .text [], required "proposition2" .text [],
   filled "method" .text (.str "automatic")
     [.oneOf ["automatic", "direct", "contrapositive", "absurd", "bidirectional"]],
   filled "max_iterations" .whole (.int 50) [.amongst [50, 100, 150, 300, 500]],
   filled "allow_bidirectional" .flag (.bool false) [], filled "verbose" .flag (.bool false) []]

/-! Records that replies are made of; none of their fields need be there. -/

def tokensRecord : List (String × Shape) :=
  [("access_token", .text), ("refresh_token", .text), ("token_type", .text)]

def studentRecord : List (String × Shape) :=
  [("id", .text), ("name", .text), ("email", .text), ("registration_number", .text)]

def profileRecord : List (String × Shape) :=
  [("id", .text), ("name", .text), ("email", .email), ("registration_number", .text),
   ("created_at", .moment), ("last_access", .moment)]

def classRecord : List (String × Shape) := [("id", .text), ("name", .text), ("description", .text)]

def enrollmentRecord : List (String × Shape) :=
  [("id", .text), ("enrollment_date", .moment), ("status", .text),
   ("class_group", .record classRecord)]

def coursesRecord : List (String × Shape) :=
  [("status", .text), ("message", .text), ("data", .list (.record enrollmentRecord))]

def stepRecord : List (String × Shape) :=
  [("iteration", .whole), ("proposition", .whole), ("law", .text), ("result", .text),
   ("guided_by_nn", .flag), ("subexpression", .text), ("p1", .text), ("p2", .text)]

def rowRecord : List (String × Shape) :=
  [("values", .any), ("subvalues_p1", .any), ("subvalues_p2", .any), ("p1", .flag), ("p2", .flag)]

def tableRecord : List (String × Shape) :=
  [("variables", .list .text), ("subexpressions_p1", .list .text),
   ("subexpressions_p2", .list .text), ("rows", .list (.record rowRecord))]

def proofRecord : List (String × Shape) :=
  [("success", .flag), ("equivalent", .flag), ("method_used", .text), ("iterations", .whole),
   ("nn_predictions", .whole), ("proposition1_initial", .text), ("proposition2_initial", .text),
   ("proposition1_final", .text), ("proposition2_final", .text),
   ("transformations", .list (.record stepRecord)), ("truth_table", .record tableRecord),
   ("message", .text)]

def statusRecord : List (String × Shape) :=
  [("status", .text), ("models_loaded", .flag), ("version", .text)]

/-- The form that asks for a record. -/
def ofRecord (fields : List (String × Shape)) : Form := fields.map fun f => optional f.1 f.2 []

end LogicTutor.Form
