import LogicTutor.Campus.Fields
import LogicTutor.Campus.Search
import LogicTutor.Campus.Store
import LogicTutor.Latex

/-! Questions, as an administrator keeps them. -/
namespace LogicTutor.Questions

def notFound : Problem := .plain "NOT_FOUND" "Questao nao encontrada"

def noArea : Problem :=
  .about "MATH_AREA_NOT_FOUND" "Area matematica nao encontrada" "math_area_id"

def noSubarea : Problem :=
  .about "MATH_SUBAREA_NOT_FOUND"
    "Subarea matematica nao encontrada ou nao pertence a area selecionada" "math_subarea_id"

/-- What a new question is made from. -/
structure Draft where
  areaId : Option Id
  subareaId : Option Id
  title : Option String
  content : Option String
  contentLatex : Option String
  answer : Option String
  answerLatex : Option String
  explanation : Option String
  explanationLatex : Option String
  difficulty : Difficulty
  tags : Json
  deriving Repr

def Draft.ofFields (fs : Fields) : Draft where
  areaId := fs.text? "math_area_id"
  subareaId := fs.text? "math_subarea_id"
  title := fs.text? "title"
  content := fs.text? "content"
  contentLatex := fs.text? "content_latex"
  answer := fs.text? "answer"
  answerLatex := fs.text? "answer_latex"
  explanation := fs.text? "explanation"
  explanationLatex := fs.text? "explanation_latex"
  difficulty := ((fs.text? "difficulty").bind Difficulty.ofName?).getD .medium
  tags := (Json.field? fs "tags").getD (.arr [])

/-- What of a question is to change. Area, title and content change only to something that is not
empty; a subarea, an answer and an explanation that are named as null are taken away. -/
structure Change where
  areaId : Option Id
  subareaId : Option (Option Id)
  title : Option String
  content : Option String
  contentLatex : Option String
  answer : Option (Option String)
  answerLatex : Option String
  explanation : Option (Option String)
  explanationLatex : Option String
  difficulty : Option Difficulty
  tags : Option Json
  active : Option Bool
  deriving Repr

def Change.ofFields (fs : Fields) : Change where
  areaId := fs.given? "math_area_id"
  subareaId := (fs.namedText? "math_subarea_id").map fun s => s.filter (!·.isEmpty)
  title := fs.given? "title"
  content := fs.given? "content"
  contentLatex := fs.given? "content_latex"
  answer := fs.namedText? "answer"
  answerLatex := fs.given? "answer_latex"
  explanation := fs.namedText? "explanation"
  explanationLatex := fs.given? "explanation_latex"
  difficulty := (fs.text? "difficulty").bind Difficulty.ofName?
  tags := fs.value? "tags"
  active := fs.flag? "active"

/-- The LaTeX form after a change: the one that is given, or one made from the new text if that is
not empty, or the old one. -/
def newLatex (text given old : Option String) : Option String :=
  match given, text.filter (!·.isEmpty) with
  | some l, _ => some l
  | none, some t => some (Latex.convert t)
  | none, none => old

def Change.apply (d : Change) (now : Instant) (q : Question) : Question :=
  { q with
    areaId := d.areaId.getD q.areaId
    subareaId := d.subareaId.getD q.subareaId
    title := d.title.getD q.title
    content := d.content.getD q.content
    contentLatex := newLatex d.content d.contentLatex q.contentLatex
    answer := d.answer.getD q.answer
    answerLatex := newLatex d.answer.join d.answerLatex q.answerLatex
    explanation := d.explanation.getD q.explanation
    explanationLatex := newLatex d.explanation.join d.explanationLatex q.explanationLatex
    difficulty := d.difficulty.getD q.difficulty
    tags := d.tags.getD q.tags
    active := d.active.orElse fun _ => q.active
    updatedAt := now }

/-- Which questions to list. -/
structure Filter where
  areaId : Option Id
  subareaId : Option Id
  difficulty : Option Difficulty
  active : Option Bool
  search : Option String
  deriving Repr

def Filter.ofFields (fs : Fields) : Filter :=
  ⟨fs.given? "math_area_id", fs.given? "math_subarea_id",
    (fs.text? "difficulty").bind Difficulty.ofName?, fs.flag? "active", fs.given? "search"⟩

def Filter.admits (f : Filter) (q : Question) : Bool :=
  f.areaId.all (· = q.areaId) && f.subareaId.all (some · = q.subareaId) &&
  f.difficulty.all (· = q.difficulty) && f.active.all (some · = q.active) &&
  f.search.all fun t => Search.occurs t q.title || Search.occurs t q.content

variable (c : Campus)

/-- The questions that a filter admits, the newest first. -/
def list (f : Filter) : List Question :=
  (c.questions.filter f.admits).mergeSort fun a b => b.createdAt ≤ a.createdAt

def get (id : Id) : Deed Question := .found c notFound (c.question? id)

/-- There is such a subarea in the area. -/
def hasSubarea (id areaId : Id) : Bool := c.subareas.any fun s => s.id = id && s.areaId = areaId

def create (now : Instant) (creator : Option Id) (d : Draft) : Deed Question :=
  match d.areaId.bind c.area? with
  | none => .refused c noArea
  | some a =>
    if d.subareaId.any fun s => !s.isEmpty && !hasSubarea c s a.id then .refused c noSubarea
    else
      .attempt (c.spend 1) "Questao criada com sucesso" do
        let q : Question := ⟨c.nextId, a.id, d.subareaId, ← Campus.present d.title,
          ← Campus.present d.content, Latex.complete d.content d.contentLatex, d.answer,
          Latex.complete d.answer d.answerLatex, d.explanation,
          Latex.complete d.explanation d.explanationLatex, d.difficulty, d.tags, some true,
          ← Campus.present creator, now, now⟩
        return (q, ← (c.spend 1).addQuestion q)

def update (now : Instant) (id : Id) (d : Change) : Deed Question :=
  match c.question? id with
  | none => .refused c notFound
  | some q =>
    if d.areaId.any fun a => (c.area? a).isNone then .refused c noArea
    else if d.subareaId.join.any fun s => !hasSubarea c s (d.areaId.getD q.areaId) then
      .refused c noSubarea
    else
      let q := d.apply now q
      .done (c.saveQuestion q) q "Questao atualizada com sucesso"

def delete (id : Id) : Deed Unit :=
  match c.question? id with
  | none => .refused c notFound
  | some q =>
    .attempt c "Questao removida com sucesso" ((c.eraseQuestion q.id).map fun c => ((), c))

end LogicTutor.Questions
