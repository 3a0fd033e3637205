import LogicTutor.Campus.Fields
import LogicTutor.Campus.Store

/-! The students' answers, as an administrator reviews them. -/
namespace LogicTutor.Answers

def notFound : Problem := .plain "NOT_FOUND" "Resposta nao encontrada"

/-- The judgement on an answer. -/
structure Review where
  status : Option ReviewStatus
  isCorrect : Option Bool
  feedback : Option (Option String)
  score : Option Json
  deriving Repr

/-- An answer is approved or rejected, never put back. -/
def Review.ofFields (fs : Fields) : Review :=
  ⟨(fs.text? "status").bind fun s => (ReviewStatus.ofName? s).filter (· ≠ .pending),
    fs.flag? "is_correct", fs.namedText? "feedback", fs.value? "score"⟩

def Review.apply (r : Review) (reviewer : Option Id) (now : Instant) (a : Answer) : Answer :=
  { a with
    status := r.status.getD a.status
    isCorrect := r.isCorrect.orElse fun _ => a.isCorrect
    feedback := r.feedback.getD a.feedback
    score := r.score.getD a.score
    reviewedBy := reviewer
    reviewedAt := some now }

/-- How the answers to a question stand. -/
structure Tally where
  total : Nat
  pending : Nat
  approved : Nat
  rejected : Nat
  correct : Nat
  deriving DecidableEq, Repr

variable (c : Campus)

/-- Answers are listed by their times, of which there are none. -/
def list : Deed Unit := .broken c .untimed

/-- An answer cannot be told without its time. -/
def get (id : Id) : Deed Unit :=
  match c.answer? id with
  | none => .refused c notFound
  | some _ => .broken c .untimed

/-- The review is kept, but the answer cannot be told after it. -/
def review (now : Instant) (reviewer : Option Id) (id : Id) (r : Review) : Deed Unit :=
  match c.answer? id with
  | none => .refused c notFound
  | some a => .broken (c.saveAnswer (r.apply reviewer now a)) .untimed

def delete (id : Id) : Deed Unit :=
  match c.answer? id with
  | none => .refused c notFound
  | some a => .done (c.eraseAnswer a.id) () "Resposta removida com sucesso"

def tally (questionId : Id) : Tally :=
  let all := c.answers.filter fun a => a.questionId = questionId
  let count := fun (s : ReviewStatus) => all.countP fun a => a.status = s
  ⟨all.length, count .pending, count .approved, count .rejected,
    all.countP fun a => a.isCorrect = some true⟩

end LogicTutor.Answers
