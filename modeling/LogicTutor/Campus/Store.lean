import LogicTutor.Campus.Ids
import LogicTutor.Reply.Outcome

/-! The campus as a whole, the constraints on what it keeps, and what becomes of one action on
it. -/
namespace LogicTutor

structure Campus where
  admins : List Admin
  classes : List ClassGroup
  students : List Student
  enrollments : List Enrollment
  contents : List Content
  areas : List Area
  subareas : List Subarea
  questions : List Question
  answers : List Answer
  records : List Record
  /-- Where identifiers come from, and how many have been drawn. -/
  ids : Ids
  drawn : Nat

/-- Why an action broke off. -/
inductive Failure where
  /-- A value that must be there is missing, or one that must be unique occurs twice. -/
  | constraint
  /-- More than one row was found where there can only be one. -/
  | ambiguous
  /-- The time of an answer was asked for, and none is kept. -/
  | untimed
  /-- An answer was to be made with a time, and none can be kept. -/
  | timed
  /-- The problem that an action met cannot be passed on. -/
  | unreported
  /-- Who is asking is not known. -/
  | unidentified
  /-- The text of an answer cannot be turned into LaTeX. -/
  | unconvertible
  /-- There is no password to work with. -/
  | noPassword
  /-- A row refers to one that does not exist. -/
  | dangling
  /-- The way up through the folders never ends. -/
  | endless
  /-- A row was given a field that it does not have. -/
  | strangeField
  /-- A value is not of the kind that can be kept. -/
  | badValue
  /-- A value is none of those that are listed for it. -/
  | unlisted
  deriving DecidableEq, Repr

/-! The constraints: which rows a row cannot stand beside. -/

def Admin.clashes (a b : Admin) : Bool := a.email = b.email

def ClassGroup.clashes (a b : ClassGroup) : Bool := a.accessCode = b.accessCode

def Student.clashes (a b : Student) : Bool :=
  a.email = b.email || (a.registration.isSome && a.registration = b.registration)

def Area.clashes (a b : Area) : Bool := a.name = b.name

def Subarea.clashes (a b : Subarea) : Bool := a.areaId = b.areaId && a.name = b.name

def Answer.clashes (a b : Answer) : Bool :=
  a.studentId = b.studentId && a.questionId = b.questionId

/-- What an action came to, and the campus after it. An action that breaks off leaves only what it
had completed before. -/
structure Deed (α : Type) where
  result : Except Failure (Outcome α)
  campus : Campus

namespace Campus

def empty (ids : Ids) : Campus := ⟨[], [], [], [], [], [], [], [], [], [], ids, 0⟩

/-- The identifier that is drawn next. -/
def nextId (c : Campus) : Id := c.ids.nth (c.drawn + 1)

/-- The campus after `n` more identifiers were drawn. -/
def spend (c : Campus) (n : Nat) : Campus := { c with drawn := c.drawn + n }

/-- The row, in place of one with its identifier. -/
def substitute {α : Type} (id : α → Id) (row r : α) : α := if id r = id row then row else r

/-- The rows with one of them replaced by another with its identifier. -/
def replaced {α : Type} (id : α → Id) (row : α) (rows : List α) : List α :=
  rows.map (substitute id row)

def without {α : Type} (id : α → Id) (key : Id) (rows : List α) : List α :=
  rows.filter fun r => id r ≠ key

/-- A value that must be there. -/
def present {α : Type} : Option α → Except Failure α
  | some a => .ok a
  | none => .error .constraint

/-- Something that can only be kept if nothing stands in the way. -/
def clear {α : Type} (clash : Bool) (a : α) : Except Failure α :=
  if clash then .error .constraint else .ok a

/-- The rows with a new one at the end, which must not clash with any. -/
def insertRow {α : Type} (id : α → Id) (clashes : α → α → Bool) (row : α) (rows : List α) :
    Except Failure (List α) :=
  clear (rows.any fun r => id r = id row || clashes r row) (rows ++ [row])

/-- The rows with a row changed, which must not clash with any other. -/
def updateRow {α : Type} (id : α → Id) (clashes : α → α → Bool) (row : α) (rows : List α) :
    Except Failure (List α) :=
  clear (rows.any fun r => id r ≠ id row && clashes r row) (replaced id row rows)

def noClash {α : Type} (_ _ : α) : Bool := false

variable (c : Campus)

def addAdmin (a : Admin) : Except Failure Campus := do
  return { c with admins := ← insertRow Admin.id Admin.clashes a c.admins }

def addClass (g : ClassGroup) : Except Failure Campus := do
  return { c with classes := ← insertRow ClassGroup.id ClassGroup.clashes g c.classes }

def saveClass (g : ClassGroup) : Except Failure Campus := do
  return { c with classes := ← updateRow ClassGroup.id ClassGroup.clashes g c.classes }

def addStudent (s : Student) : Except Failure Campus := do
  return { c with students := ← insertRow Student.id Student.clashes s c.students }

def saveStudent (s : Student) : Except Failure Campus := do
  return { c with students := ← updateRow Student.id Student.clashes s c.students }

def addEnrollment (e : Enrollment) : Except Failure Campus := do
  return { c with enrollments := ← insertRow Enrollment.id noClash e c.enrollments }

def addContent (n : Content) : Except Failure Campus := do
  return { c with contents := ← insertRow Content.id noClash n c.contents }

def saveContent (n : Content) : Campus :=
  { c with contents := replaced Content.id n c.contents }

def addArea (a : Area) : Except Failure Campus := do
  return { c with areas := ← insertRow Area.id Area.clashes a c.areas }

def saveArea (a : Area) : Except Failure Campus := do
  return { c with areas := ← updateRow Area.id Area.clashes a c.areas }

def addSubarea (s : Subarea) : Except Failure Campus := do
  return { c with subareas := ← insertRow Subarea.id Subarea.clashes s c.subareas }

def saveSubarea (s : Subarea) : Except Failure Campus := do
  return { c with subareas := ← updateRow Subarea.id Subarea.clashes s c.subareas }

def addQuestion (q : Question) : Except Failure Campus := do
  return { c with questions := ← insertRow Question.id noClash q c.questions }

def saveQuestion (q : Question) : Campus :=
  { c with questions := replaced Question.id q c.questions }

def addAnswer (a : Answer) : Except Failure Campus := do
  return { c with answers := ← insertRow Answer.id Answer.clashes a c.answers }

def saveAnswer (a : Answer) : Campus :=
  { c with answers := replaced Answer.id a c.answers }

def addRecord (r : Record) : Except Failure Campus := do
  return { c with records := ← insertRow Record.id noClash r c.records }

/-! Removing rows. What refers to a removed row loses the reference; a row that cannot do without
it stands in the way. -/

def eraseEnrollmentsOf (student : Id) : Campus :=
  { c with enrollments := c.enrollments.filter fun e => e.studentId ≠ student }

def eraseStudent (id : Id) : Except Failure Campus :=
  clear
    ((c.enrollments.any fun e => e.studentId = id) || (c.answers.any fun a => a.studentId = id) ||
      c.records.any fun r => r.studentId = some id && r.kind.needsStudent)
    { c with
      students := without Student.id id c.students
      records := c.records.map fun r => if r.studentId = some id then { r with studentId := none }
        else r }

def eraseClass (id : Id) : Except Failure Campus :=
  clear
    ((c.students.any fun s => s.classId = id) || (c.enrollments.any fun e => e.classId = id) ||
      (c.contents.any fun n => n.classId = id) ||
      c.records.any fun r => r.classId = some id && r.kind.needsClass)
    { c with
      classes := without ClassGroup.id id c.classes
      records := c.records.map fun r => if r.classId = some id then { r with classId := none }
        else r }

def eraseContent (id : Id) (now : Instant) : Except Failure Campus :=
  clear (c.records.any fun r => r.contentId = some id && r.kind.needsContent)
    { c with
      contents := (without Content.id id c.contents).map fun n =>
        if n.parentId = some id then { n with parentId := none, updatedAt := now } else n
      records := c.records.map fun r => if r.contentId = some id then { r with contentId := none }
        else r }

def eraseSubarea (id : Id) (now : Instant) : Campus :=
  { c with
    subareas := without Subarea.id id c.subareas
    questions := c.questions.map fun q =>
      if q.subareaId = some id then { q with subareaId := none, updatedAt := now } else q }

def eraseArea (id : Id) : Except Failure Campus :=
  clear
    ((c.subareas.any fun s => s.areaId = id) || c.questions.any fun q => q.areaId = id)
    { c with areas := without Area.id id c.areas }

def eraseQuestion (id : Id) : Except Failure Campus :=
  clear (c.answers.any fun a => a.questionId = id)
    { c with questions := without Question.id id c.questions }

def eraseAnswer (id : Id) : Campus := { c with answers := without Answer.id id c.answers }

/-! Finding rows. -/

def class? (id : Id) : Option ClassGroup := c.classes.find? fun g => g.id = id

def student? (id : Id) : Option Student := c.students.find? fun s => s.id = id

def studentByEmail? (email : String) : Option Student := c.students.find? fun s => s.email = email

def content? (id : Id) : Option Content := c.contents.find? fun n => n.id = id

def area? (id : Id) : Option Area := c.areas.find? fun a => a.id = id

def subarea? (id : Id) : Option Subarea := c.subareas.find? fun s => s.id = id

def question? (id : Id) : Option Question := c.questions.find? fun q => q.id = id

def answer? (id : Id) : Option Answer := c.answers.find? fun a => a.id = id

/-- The class belongs to the administrator. -/
def owns (admin : Id) (classId : Id) : Bool :=
  c.classes.any fun g => g.id = classId && g.adminId = admin

/-- A class of the administrator. -/
def ownClass? (admin : Id) (id : Id) : Option ClassGroup :=
  c.classes.find? fun g => g.id = id && g.adminId = admin

end Campus

namespace Deed

variable {α β : Type}

/-- Something was asked for and nothing changed. -/
def answered (c : Campus) (a : α) : Deed α := ⟨.ok (.success a none), c⟩

/-- The action was refused and nothing changed. -/
def refused (c : Campus) (p : Problem) : Deed α := ⟨.ok (.failure p), c⟩

def broken (c : Campus) (f : Failure) : Deed α := ⟨.error f, c⟩

def done (c : Campus) (a : α) (message : String) : Deed α := ⟨.ok (.success a (some message)), c⟩

/-- What was found, or the problem that nothing was. -/
def found (c : Campus) (p : Problem) : Option α → Deed α
  | some a => answered c a
  | none => refused c p

/-- A change that may break a constraint; then `c` is what stays. -/
def attempt (c : Campus) (message : String) : Except Failure (α × Campus) → Deed α
  | .ok (a, c') => done c' a message
  | .error f => broken c f

/-- The same deed, told in another way. -/
def map (f : α → β) (d : Deed α) : Deed β := ⟨d.result.map (Outcome.map f), d.campus⟩

end Deed

end LogicTutor
