import LogicTutor.Campus.Contents

/-! What a student sees of the classes: courses, and contents that are not hidden. -/
namespace LogicTutor.Lessons

def notEnrolled : Problem := .plain "NOT_ENROLLED" "Voce nao esta matriculado nesta turma"

def denied : Problem := .plain "ACCESS_DENIED" "Voce nao tem acesso a este conteudo"

def hidden : Problem := .plain "PRIVATE_CONTENT" "Este conteudo nao esta disponivel"

variable (c : Campus) (student : Id)

/-- The active enrollments of a student. -/
def active : List Enrollment :=
  c.enrollments.filter fun e => e.studentId = student && e.status = .active

/-- Each active enrollment with its class, which must exist. -/
def courses : Deed (List (Enrollment × ClassGroup)) :=
  let found := (active c student).mapM fun e => (c.class? e.classId).map fun g => (e, g)
  match found with
  | some xs => .answered c xs
  | none => .broken c .dangling

/-- The student has an active enrollment in the class; there must not be two. -/
def isEnrolled (classId : Id) : Except Failure Bool :=
  match (active c student).filter fun e => e.classId = classId with
  | [] => .ok false
  | [_] => .ok true
  | _ => .error .ambiguous

/-- Goes on only if the student is enrolled in the class. -/
def whenEnrolled {α : Type} (classId : Id) (problem : Problem) (next : Deed α) : Deed α :=
  match isEnrolled c student classId with
  | .error f => .broken c f
  | .ok false => .refused c problem
  | .ok true => next

/-- What lies in a folder, or at the top. -/
def shownIn (classId : Id) (parent : Option Id) : List Content :=
  (c.contents.filter fun n => n.classId = classId && n.visibility ≠ .hidden &&
    n.parentId = parent).mergeSort fun a b =>
      Contents.placeLt a.order b.order || (a.order = b.order && a.title ≤ b.title)

/-- The contents of a class in a folder, or at the top if none is given. -/
def list (classId : Id) (parent : Option Id) : Deed (List Content) :=
  whenEnrolled c student classId notEnrolled
    (.answered c (shownIn c classId (parent.filter (!·.isEmpty))))

def get (id : Id) : Deed Content :=
  match c.content? id with
  | none => .refused c Contents.notFound
  | some n =>
    whenEnrolled c student n.classId denied
      (if n.visibility = .hidden then .refused c hidden else .answered c n)

/-- The way from the top down to a content, found by going up from parent to parent, at most
`fuel` times. -/
def wayTo : Nat → Content → List Content → Option (List Content)
  | 0, _, _ => none
  | fuel + 1, n, below =>
    match n.parentId.filter (!·.isEmpty) with
    | none => some (n :: below)
    | some p =>
      match c.content? p with
      | none => some (n :: below)
      | some m => wayTo fuel m (n :: below)

/-- The folders that lead to a content. If there are more of them than contents, the way never
ends. -/
def way (id : Id) : Deed (List Content) :=
  match c.content? id with
  | none => .refused c Contents.notFound
  | some n =>
    whenEnrolled c student n.classId denied
      (match wayTo c (c.contents.length + 1) n [] with
        | some ns => .answered c ns
        | none => .broken c .endless)

end LogicTutor.Lessons
