import LogicTutor.Campus.Answers
import LogicTutor.Campus.Classes
import LogicTutor.Campus.Exercises
import LogicTutor.Campus.Lessons
import LogicTutor.Credential.Basic

/-! How rows are told to those who ask for them. -/
namespace LogicTutor.View

def time (t : Instant) : Json := .str (Time.text t)

def maybeTime (t : Option Instant) : Json := t.elim .null time

def flag (b : Option Bool) : Json := b.elim .null .bool

def whole (n : Option Int) : Json := n.elim .null .int

/-- A reference; an empty one is told as null. -/
def reference (id : Option Id) : Json := .ofOption (id.filter (!·.isEmpty))

/-- A pair of credentials for somebody. -/
def tokens (now : Instant) (id : Id) (claims : Claims) : Json :=
  .obj [("access_token", .str (Credential.issue .access now id claims)),
    ("refresh_token", .str (Credential.issue .refresh now id [])), ("token_type", .str "Bearer")]

def adminLogin (now : Instant) (a : Admin) : Json :=
  .obj [("admin", .obj [("id", .str a.id), ("name", .str a.name), ("email", .str a.email)]),
    ("tokens", tokens now a.id
      [("email", .str a.email), ("name", .str a.name), ("role", .str "admin")])]

/-- A student in short. -/
def account (s : Student) : Json :=
  .obj [("id", .str s.id), ("name", .str s.name), ("email", .str s.email),
    ("registration_number", .ofOption s.registration)]

def studentLogin (now : Instant) (s : Student) : Json :=
  .obj [("student", account s),
    ("tokens", tokens now s.id [("email", .str s.email), ("name", .str s.name)])]

def profile (s : Student) : Json :=
  .obj [("id", .str s.id), ("name", .str s.name), ("email", .str s.email),
    ("registration_number", .ofOption s.registration), ("created_at", time s.createdAt),
    ("last_access", maybeTime s.lastAccess)]

/-- A class as it is told after it was made or changed. -/
def classFields (g : ClassGroup) : Fields :=
  [("id", .str g.id), ("name", .str g.name), ("description", .ofOption g.description),
   ("access_code", .str g.accessCode), ("active", flag g.active), ("configs", g.configs),
   ("created_at", time g.createdAt)]

/-- The same with the number of students. -/
def classDetail (c : Campus) (g : ClassGroup) : Json :=
  .obj (classFields g ++ [("student_count", .int (Classes.members c g.id).length)])

def newStudent (c : Campus) (s : Student) : Fields :=
  [("id", .str s.id), ("name", .str s.name), ("email", .str s.email),
   ("registration_number", .ofOption s.registration), ("active", flag s.active),
   ("class_group_id", .str s.classId),
   ("class_group_name", .ofOption ((c.class? s.classId).map ClassGroup.name)),
   ("created_at", time s.createdAt)]

def student (c : Campus) (s : Student) : Json :=
  .obj (newStudent c s ++ [("last_access", maybeTime s.lastAccess)])

/-- What everybody may know of a content. -/
def contentFields (n : Content) : Fields :=
  [("id", .str n.id), ("type", .str n.material.kindName), ("title", .str n.title),
   ("description", .ofOption n.description), ("class_group_id", .str n.classId),
   ("parent_id", reference n.parentId), ("order", whole n.order),
   ("visibility", .str n.visibility.name), ("created_at", time n.createdAt)]

def materialFields : Material → Fields
  | .folder color icon _ => [("color", .ofOption color), ("icon", .ofOption icon)]
  | .file driveId url fileName mime size _ _ _ =>
    [("drive_file_id", .str driveId), ("drive_url", .str url), ("original_name", .str fileName),
     ("mime_type", .str mime), ("size", .int size)]
  | .video videoId url duration thumbnail channel _ =>
    [("youtube_id", .str videoId), ("full_url", .str url), ("duration", whole duration),
     ("thumbnail_url", .ofOption thumbnail), ("channel", .ofOption channel)]

/-- What only the administrator is told of it. -/
def materialDetail : Material → Fields
  | .folder _ _ upload => [("allow_upload", flag upload)]
  | .file _ _ _ _ _ version uploaded hash =>
    [("version", .int version), ("upload_date", time uploaded), ("file_hash", .ofOption hash)]
  | .video _ _ _ _ _ published => [("published_at", .ofOption published)]

def content (n : Content) : Json := .obj (contentFields n ++ materialFields n.material)

def contentDetail (n : Content) : Json :=
  .obj (contentFields n ++
    [("created_by", .str n.createdBy), ("updated_at", time n.updatedAt), ("meta_data", n.notes)] ++
    materialFields n.material ++ materialDetail n.material)

/-- A step on the way to a content. -/
def crumb (n : Content) : Json :=
  .obj [("id", .str n.id), ("title", .str n.title), ("type", .str n.material.kindName)]

def course (e : Enrollment) (g : ClassGroup) : Json :=
  .obj [("id", .str e.id), ("enrollment_date", time e.date), ("status", .str e.status.name),
    ("class_group", .obj [("id", .str g.id), ("name", .str g.name),
      ("description", .str (g.description.getD ""))])]

def area (c : Campus) (a : Area) : Json :=
  let active := (Areas.subareas c a.id).countP fun s => s.active = some true
  .obj [("id", .str a.id), ("name", .str a.name), ("description", .ofOption a.description),
    ("icon", .ofOption a.icon), ("color", .ofOption a.color), ("order", whole a.order),
    ("active", flag a.active), ("subarea_count", .int active),
    ("question_count", .int (Areas.questions c a.id).length), ("created_at", time a.createdAt),
    ("updated_at", time a.updatedAt)]

def subarea (c : Campus) (s : Subarea) : Json :=
  .obj [("id", .str s.id), ("math_area_id", .str s.areaId),
    ("math_area_name", .ofOption ((c.area? s.areaId).map Area.name)), ("name", .str s.name),
    ("description", .ofOption s.description), ("order", whole s.order), ("active", flag s.active),
    ("question_count", .int (Subareas.questions c s.id).length), ("created_at", time s.createdAt),
    ("updated_at", time s.updatedAt)]

/-- What students and administrators alike are told of a question. -/
def questionFields (c : Campus) (q : Question) : Fields :=
  [("id", .str q.id), ("math_area_id", .str q.areaId),
   ("math_area_name", .ofOption ((c.area? q.areaId).map Area.name)),
   ("math_subarea_id", reference q.subareaId),
   ("math_subarea_name", .ofOption ((q.subareaId.bind c.subarea?).map Subarea.name)),
   ("title", .str q.title), ("content", .str q.content),
   ("content_latex", .ofOption q.contentLatex), ("difficulty", .str q.difficulty.name),
   ("tags", if q.tags.isTruthy then q.tags else .arr []), ("created_at", time q.createdAt)]

def question (c : Campus) (q : Question) : Json :=
  .obj (questionFields c q ++
    [("answer", .ofOption q.answer), ("answer_latex", .ofOption q.answerLatex),
     ("explanation", .ofOption q.explanation),
     ("explanation_latex", .ofOption q.explanationLatex), ("active", flag q.active),
     ("created_by", .str q.createdBy), ("updated_at", time q.updatedAt)])

/-- A question for a student who has not answered it, or for nobody in particular. -/
def exercise (c : Campus) (student : Option Id) (q : Question) : Json :=
  .obj (questionFields c q ++ (if student.any (!·.isEmpty) then [("my_answer", .null)] else []) ++
    [("approved_answers_count", .int (Exercises.approved c q.id))])

def areaChoice (a : Area) : Json :=
  .obj [("id", .str a.id), ("name", .str a.name), ("icon", .ofOption a.icon),
    ("color", .ofOption a.color)]

def subareaChoice (s : Subarea) : Json := .obj [("id", .str s.id), ("name", .str s.name)]

def tally (t : Answers.Tally) : Json :=
  .obj [("total", .int t.total), ("pending", .int t.pending), ("approved", .int t.approved),
    ("rejected", .int t.rejected), ("correct", .int t.correct)]

def list {α : Type} (view : α → Json) (xs : List α) : Json := .arr (xs.map view)

end LogicTutor.View
