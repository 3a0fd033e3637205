import LogicTutor.Campus.Fields
import LogicTutor.Campus.Search
import LogicTutor.Campus.Store

/-! The classes of an administrator. -/
namespace LogicTutor.Classes

def notFound : Problem := .plain "NOT_FOUND" "Turma nao encontrada"

def codeTaken : Problem := .about "ACCESS_CODE_EXISTS" "Codigo de acesso ja existe" "access_code"

def hasStudents : Problem :=
  .plain "HAS_STUDENTS" "Nao e possivel excluir turma com alunos matriculados"

/-- What a new class is made from. -/
structure Draft where
  name : Option String
  description : Option String
  accessCode : Option String
  configs : Json
  deriving Repr

def Draft.ofFields (fs : Fields) : Draft :=
  ⟨fs.text? "name", (fs.namedText? "description").getD (some ""), fs.text? "access_code",
    (Json.field? fs "configs").getD (.obj [])⟩

/-- What of a class is to change; a field that is not named stays. -/
structure Change where
  name : Option (Option String)
  description : Option (Option String)
  accessCode : Option (Option String)
  active : Option (Option Bool)
  configs : Option Json
  deriving Repr

def Change.ofFields (fs : Fields) : Change :=
  ⟨fs.namedText? "name", fs.namedText? "description", fs.namedText? "access_code",
    fs.namedFlag? "active", Json.field? fs "configs"⟩

/-- The class with the change made. Name and access code must not be lost. -/
def Change.apply (d : Change) (g : ClassGroup) : Except Failure ClassGroup := do
  return { g with
    name := ← Campus.present (d.name.getD (some g.name))
    description := d.description.getD g.description
    accessCode := ← Campus.present (d.accessCode.getD (some g.accessCode))
    active := d.active.getD g.active
    configs := d.configs.getD g.configs }

variable (c : Campus) (admin : Id)

/-- The students of a class. -/
def members (classId : Id) : List Student := c.students.filter fun s => s.classId = classId

/-- The administrator's classes, the newest first. -/
def list (active : Option Bool) (search : Option String) : List ClassGroup :=
  (c.classes.filter fun g => g.adminId = admin && active.all (some · = g.active) &&
    search.all fun t => t.isEmpty || Search.occurs t g.name).mergeSort
      fun a b => b.createdAt ≤ a.createdAt

def get (id : Id) : Deed ClassGroup := .found c notFound (c.ownClass? admin id)

def create (now : Instant) (d : Draft) : Deed ClassGroup :=
  if c.classes.any fun g => some g.accessCode = d.accessCode then .refused c codeTaken
  else
    .attempt (c.spend 1) "Turma criada com sucesso" do
      let g : ClassGroup := ⟨c.nextId, ← Campus.present d.name, d.description,
        ← Campus.present d.accessCode, admin, now, some true, d.configs⟩
      return (g, ← (c.spend 1).addClass g)

def update (id : Id) (d : Change) : Deed ClassGroup :=
  match c.ownClass? admin id with
  | none => .refused c notFound
  | some g =>
    if d.accessCode.any fun code => code ≠ some g.accessCode &&
        c.classes.any fun h => some h.accessCode = code then
      .refused c codeTaken
    else
      .attempt c "Turma atualizada com sucesso" do
        let g ← d.apply g
        return (g, ← c.saveClass g)

def delete (id : Id) : Deed Unit :=
  match c.ownClass? admin id with
  | none => .refused c notFound
  | some g =>
    if (members c g.id).isEmpty then
      .attempt c "Turma removida com sucesso" ((c.eraseClass g.id).map fun c => ((), c))
    else .refused c hasStudents

end LogicTutor.Classes
