import LogicTutor.Campus.Areas
import LogicTutor.Campus.Questions

/-! Questions as students see and answer them. -/
namespace LogicTutor.Exercises

variable (c : Campus)

/-- The answer of a student to a question. -/
def answerOf? (student question : Id) : Option Answer :=
  c.answers.find? fun a => a.studentId = student && a.questionId = question

/-- How many answers to the question were approved. -/
def approved (question : Id) : Nat :=
  c.answers.countP fun a => a.questionId = question && a.status = .approved

/-- A question can be shown to a student who has not answered it, or to nobody in particular: an
answer cannot be told without its time. -/
def isShowable (student : Option Id) (q : Question) : Bool :=
  student.all fun s => s.isEmpty || (answerOf? c s q.id).isNone

/-- The active questions that a filter admits, the newest first. -/
def list (student : Option Id) (f : Questions.Filter) : Deed (List Question) :=
  let found := Questions.list c { f with active := some true }
  if found.all (isShowable c student) then .answered c found else .broken c .untimed

/-- An active question. -/
def active? (id : Id) : Option Question := (c.question? id).filter fun q => q.active = some true

def get (student : Option Id) (id : Id) : Deed Question :=
  match active? c id with
  | none => .refused c Questions.notFound
  | some q => if isShowable c student q then .answered c q else .broken c .untimed

/-- A student answers a question. A first answer cannot be made; a later one replaces it and is
kept, but cannot be told. -/
def submit (student : Id) (id : Id) (content latex : Option String) : Deed Unit :=
  match active? c id with
  | none => .refused c Questions.notFound
  | some q =>
    match answerOf? c student q.id with
    | none => .broken c .timed
    | some a =>
      if Latex.isIncomplete content latex then .broken c .unconvertible
      else
        match content with
        | none => .broken c .constraint
        | some content =>
          let a := { a with
            content := content
            contentLatex := latex
            status := .pending
            isCorrect := none
            feedback := none
            score := .null
            reviewedBy := none
            reviewedAt := none }
          .broken (c.saveAnswer a) .untimed

/-- Approved answers are listed by their times, of which there are none. -/
def approvedAnswers : Deed Unit := .broken c .untimed

/-- The active areas by place. -/
def areas : List Area :=
  (c.areas.filter fun a => a.active = some true).mergeSort
    fun a b => Areas.precedes a.order b.order "" ""

/-- The active subareas of an area by place. -/
def subareas (areaId : Id) : List Subarea :=
  ((Areas.subareas c areaId).filter fun s => s.active = some true).mergeSort
    fun a b => Areas.precedes a.order b.order "" ""

/-- The LaTeX form of the text of an answer: only that of an empty text can be told. -/
def convert (text : Option String) : Except Failure (Option String) :=
  if text.any (!·.isEmpty) then .error .unconvertible else .ok text

end LogicTutor.Exercises
