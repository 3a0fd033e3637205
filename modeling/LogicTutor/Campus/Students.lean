import LogicTutor.Campus.Accounts
import LogicTutor.Campus.Search

/-! The students in the classes of an administrator. -/
namespace LogicTutor.Students

def notFound : Problem := .plain "NOT_FOUND" "Aluno nao encontrado"

def classNotFound : Problem :=
  .about "CLASS_GROUP_NOT_FOUND" "Turma nao encontrada" "class_group_id"

def emailTaken : Problem := .about "EMAIL_EXISTS" "Email ja cadastrado" "email"

/-- What a new student is made from. -/
structure Draft where
  name : Option String
  email : Option String
  password : Option String
  registration : Option String
  classId : Option Id
  deriving Repr

def Draft.ofFields (fs : Fields) : Draft :=
  ⟨fs.text? "name", fs.text? "email", fs.text? "password", fs.text? "registration_number",
    fs.text? "class_group_id"⟩

/-- What of a student is to change; a field that is not named stays. -/
structure Change where
  name : Option (Option String)
  email : Option (Option String)
  password : Option (Option String)
  registration : Option (Option String)
  classId : Option (Option Id)
  active : Option (Option Bool)
  deriving Repr

def Change.ofFields (fs : Fields) : Change :=
  ⟨fs.namedText? "name", fs.namedText? "email", fs.namedText? "password",
    fs.namedText? "registration_number", fs.namedText? "class_group_id", fs.namedFlag? "active"⟩

/-- The student with the change made. -/
def Change.apply (d : Change) (s : Student) : Except Failure Student := do
  let password ← match d.password with
    | none => .ok s.password
    | some (some p) => .ok (some p)
    | some none => .error .noPassword
  return { s with
    name := ← Campus.present (d.name.getD (some s.name))
    email := ← Campus.present (d.email.getD (some s.email))
    password := password
    registration := d.registration.getD s.registration
    classId := ← Campus.present (d.classId.getD (some s.classId))
    active := d.active.getD s.active }

variable (c : Campus) (admin : Id)

/-- A student in a class of the administrator. -/
def own? (id : Id) : Option Student :=
  c.students.find? fun s => s.id = id && c.owns admin s.classId

/-- The students in the administrator's classes, the newest first. -/
def list (classId : Option Id) (active : Option Bool) (search : Option String) : List Student :=
  (c.students.filter fun s => c.owns admin s.classId &&
    (classId.all fun g => g.isEmpty || s.classId = g) && active.all (some · = s.active) &&
    search.all fun t => t.isEmpty || Search.occurs t s.name || Search.occurs t s.email).mergeSort
      fun a b => b.createdAt ≤ a.createdAt

def get (id : Id) : Deed Student := .found c notFound (own? c admin id)

/-- A new student, who is enrolled in the class at once. -/
def create (now : Instant) (d : Draft) : Deed Student :=
  match d.classId.bind (c.ownClass? admin) with
  | none => .refused c classNotFound
  | some g =>
    if c.students.any fun s => some s.email = d.email then .refused c emailTaken
    else if d.registration.any fun r => !r.isEmpty &&
        c.students.any fun s => s.registration = some r then
      .refused c (.about "REGISTRATION_EXISTS" "Numero de matricula ja cadastrado"
        "registration_number")
    else
      match d.password with
      | none => .broken c .noPassword
      | some password =>
        match Accounts.enroll c now d.name d.email password d.registration g.id with
        | .ok (s, c') => .done c' s "Aluno criado com sucesso"
        | .error (f, c') => .broken c' f

def update (id : Id) (d : Change) : Deed Student :=
  match own? c admin id with
  | none => .refused c notFound
  | some s =>
    if d.email.any fun e => e ≠ some s.email && c.students.any fun t => some t.email = e then
      .refused c emailTaken
    else if d.classId.any fun g => (g.bind (c.ownClass? admin)).isNone then
      .refused c classNotFound
    else
      .attempt c "Aluno atualizado com sucesso" do
        let s ← d.apply s
        return (s, ← c.saveStudent s)

/-- Removes a student together with all enrollments. -/
def delete (id : Id) : Deed Unit :=
  match own? c admin id with
  | none => .refused c notFound
  | some s =>
    .attempt c "Aluno removido com sucesso"
      (((c.eraseEnrollmentsOf s.id).eraseStudent s.id).map fun c => ((), c))

end LogicTutor.Students
