import LogicTutor.Campus.Fields
import LogicTutor.Campus.Store

/-! Rows entered directly, table by table: which columns a table has, and what a row gets for
those that are left out. -/
namespace LogicTutor

/-- The tables that rows can be entered into. -/
inductive Table where
  | admin | classGroup | student | enrollment
  | node | folder | file | video
  | area | subarea | question | answer
  | access | classSetting | permission | drive | notification | progress
  deriving DecidableEq, Repr

/-- What a column holds. -/
inductive ColumnKind where
  | text | whole | number | flag | json | moment
  | choice (values : List String)
  deriving DecidableEq, Repr

structure Column where
  name : String
  kind : ColumnKind
  required : Bool
  default : Option Json
  deriving Repr

namespace Column

def need (kind : ColumnKind) (name : String) : Column := ⟨name, kind, true, none⟩

def may (kind : ColumnKind) (name : String) : Column := ⟨name, kind, false, none⟩

def filled (kind : ColumnKind) (name : String) (default : Json) : Column :=
  ⟨name, kind, false, some default⟩

/-- A value in the form in which the column keeps it. -/
def keep (c : Column) (v : Json) : Except Failure Json :=
  match c.kind, v with
  | .json, v => .ok v
  | _, .null => .ok .null
  | .moment, _ => .error .badValue
  | .text, .str s => .ok (.str s)
  | .text, .int n => .ok (.str (toString n))
  | .whole, .int n => .ok (.int n)
  | .number, .int n => .ok (.int n)
  | .number, .real x => .ok (.real x)
  | .flag, .bool b => .ok (.bool b)
  | .flag, .int n => if n = 0 then .ok (.bool false) else if n = 1 then .ok (.bool true)
      else .error .badValue
  | .choice values, .str s => if values.contains s then .ok (.str s) else .error .unlisted
  | _, _ => .error .badValue

/-- What the column holds in a row for which `given` is given. A null gives way to the default,
unless null is a value of the column. -/
def value (c : Column) (given : Option Json) : Except Failure Json := do
  let v ← c.keep (given.getD .null)
  match given, c.kind, v with
  | some _, .json, v => return v
  | _, _, .null =>
    match c.default with
    | some d => return d
    | none => if c.required then .error .constraint else return .null
  | _, _, v => return v

end Column

namespace Table

open Column

def all : List Table :=
  [admin, classGroup, student, enrollment, node, folder, file, video, area, subarea, question,
   answer, access, classSetting, permission, drive, notification, progress]

/-- The name under which a table is known. -/
def title : Table → String
  | admin => "Admin"
  | classGroup => "ClassGroup"
  | student => "Student"
  | enrollment => "Enrollment"
  | node => "ContentNode"
  | folder => "Folder"
  | file => "FileResource"
  | video => "YouTubeLink"
  | area => "MathArea"
  | subarea => "MathSubarea"
  | question => "Question"
  | answer => "Answer"
  | access => "AccessLog"
  | classSetting => "ClassConfig"
  | permission => "ContentPermission"
  | drive => "DriveConfig"
  | notification => "Notification"
  | progress => "StudentProgress"

def ofTitle? (s : String) : Option Table := all.find? fun t => t.title = s

/-- What all contents have. -/
def nodeColumns : List Column :=
  [need .text "title", may .text "description", need .text "class_group_id",
   may .text "parent_id", filled .whole "order" (.int 0),
   filled (.choice ["publico", "privado", "restrito"]) "visibility" (.str "privado"),
   need .text "created_by", may .moment "created_at", may .moment "updated_at",
   filled .json "meta_data" (.obj []),
   may (.choice ["pasta", "arquivo", "link_externo", "youtube"]) "type"]

/-- The columns beside the identifier. -/
def columns : Table → List Column
  | admin => [need .text "name", need .text "email", may .text "password",
      may .text "password_hash", may .moment "created_at", may .moment "updated_at",
      filled .flag "active" (.bool true)]
  | classGroup => [need .text "name", may .text "description", need .text "access_code",
      need .text "admin_id", may .moment "created_at", filled .flag "active" (.bool true),
      filled .json "configs" (.obj [])]
  | student => [need .text "name", need .text "email", may .text "password",
      may .text "password_hash", may .text "registration_number", may .moment "created_at",
      may .moment "last_access", filled .flag "active" (.bool true), need .text "class_group_id"]
  | enrollment => [need .text "student_id", need .text "class_group_id",
      may .moment "enrollment_date",
      filled (.choice ["ativo", "inativo", "pendente"]) "status" (.str "pendente"),
      filled .json "extra_permissions" (.obj [])]
  | node => nodeColumns
  | folder => nodeColumns ++ [may .text "color", may .text "icon",
      filled .flag "allow_upload" (.bool false)]
  | file => nodeColumns ++ [need .text "drive_file_id", need .text "drive_url",
      need .text "original_name", need .text "mime_type", need .whole "size",
      filled .whole "version" (.int 1), may .moment "upload_date", may .text "file_hash"]
  | video => nodeColumns ++ [need .text "youtube_id", need .text "full_url",
      may .whole "duration", may .text "thumbnail_url", may .text "channel",
      may .moment "published_at"]
  | area => [need .text "name", may .text "description", may .text "icon", may .text "color",
      filled .whole "order" (.int 0), filled .flag "active" (.bool true),
      may .moment "created_at", may .moment "updated_at"]
  | subarea => [need .text "math_area_id", need .text "name", may .text "description",
      filled .whole "order" (.int 0), filled .flag "active" (.bool true),
      may .moment "created_at", may .moment "updated_at"]
  | question => [need .text "math_area_id", may .text "math_subarea_id", need .text "title",
      need .text "content", may .text "content_latex", may .text "answer",
      may .text "answer_latex", may .text "explanation", may .text "explanation_latex",
      filled (.choice ["facil", "medio", "dificil", "especialista"]) "difficulty" (.str "medio"),
      filled .json "tags" (.arr []), filled .flag "active" (.bool true), need .text "created_by",
      may .moment "created_at", may .moment "updated_at"]
  | answer => [need .text "student_id", need .text "question_id", need .text "content",
      may .text "content_latex",
      filled (.choice ["pendente", "aprovado", "rejeitado"]) "status" (.str "pendente"),
      may .flag "is_correct", may .text "feedback", may .number "score", may .text "reviewed_by",
      may .moment "reviewed_at"]
  | access => [need .text "student_id", need .text "content_node_id",
      need (.choice ["visualizacao", "download", "upload", "exclusao"]) "action_type",
      may .moment "timestamp", may .text "ip_address", may .text "user_agent",
      filled .json "details" (.obj [])]
  | classSetting => [need .text "class_group_id", need .text "config_type",
      filled .json "value" (.obj []), need .text "updated_by", may .moment "updated_at"]
  | permission => [need .text "content_node_id", may .text "student_id",
      may .text "class_group_id",
      need (.choice ["leitura", "escrita", "comentario", "download"]) "access_type",
      need .text "granted_by", may .moment "granted_at", may .moment "expires_at",
      filled .json "conditions" (.obj [])]
  | drive => [need .text "class_group_id", need .text "drive_folder_id",
      need .json "service_account", filled .flag "auto_sync" (.bool false),
      may .moment "last_sync"]
  | notification => [need .text "student_id", need .text "title", need .text "message",
      filled (.choice ["info", "aviso", "sucesso", "erro"]) "type" (.str "info"),
      filled .flag "read" (.bool false), may .moment "created_at", may .text "destination_link",
      filled .json "context" (.obj [])]
  | progress => [need .text "student_id", need .text "content_node_id",
      filled (.choice ["nao_iniciado", "em_andamento", "concluido"]) "status"
        (.str "nao_iniciado"),
      filled .number "percent_completed" (.int 0), may .moment "last_access",
      filled .whole "total_time" (.int 0), filled .json "progress_data" (.obj [])]

/-- The columns by which a row is called, beside the table; the identifier if there are none. -/
def labels : Table → List String
  | admin | student => ["email"]
  | classGroup | area | subarea => ["name"]
  | enrollment => ["student_id", "class_group_id"]
  | node | folder | video | question | notification => ["title"]
  | file => ["original_name"]
  | classSetting => ["config_type"]
  | drive => ["drive_folder_id"]
  | progress => ["student_id", "content_node_id"]
  | answer | access | permission => []

/-- The row in a few words. -/
def called (t : Table) (id : Id) (fs : Fields) : String :=
  let words := if t.labels.isEmpty then [id] else t.labels.map fun k => (fs.text? k).getD ""
  "<" ++ t.title ++ " " ++ " - ".intercalate words ++ ">"

end Table

namespace Entry

/-- The values of all columns of a row. -/
def complete (t : Table) (given : Fields) : Except Failure Fields :=
  t.columns.mapM fun col => (col.value (Json.field? given col.name)).map fun v => (col.name, v)

/-- The secret of an account; one that was not made from a password opens to none. -/
def secret (fs : Fields) : Except Failure Secret :=
  match fs.text? "password", fs.text? "password_hash" with
  | some p, _ => .ok (some p)
  | none, some _ => .ok none
  | none, none => .error .constraint

def textOf (fs : Fields) (key : String) : String := (fs.text? key).getD ""

def content (fs : Fields) (id : Id) (now : Instant) (m : Material) : Content where
  id := id
  title := textOf fs "title"
  description := fs.text? "description"
  classId := textOf fs "class_group_id"
  parentId := fs.text? "parent_id"
  order := fs.whole? "order"
  visibility := ((fs.text? "visibility").bind Visibility.ofName?).getD .hidden
  createdBy := textOf fs "created_by"
  createdAt := now
  updatedAt := now
  notes := (Json.field? fs "meta_data").getD .null
  material := m

/-- The campus with a row that has these values. -/
def insert (t : Table) (fs : Fields) (id : Id) (now : Instant) (c : Campus) :
    Except Failure Campus :=
  let text := textOf fs
  let record := fun (kind : RecordKind) => c.addRecord
    ⟨id, kind, fs.text? "student_id", fs.text? "content_node_id", fs.text? "class_group_id"⟩
  match t with
  | .admin => do
    c.addAdmin ⟨id, text "name", text "email", ← secret fs, fs.flag? "active"⟩
  | .classGroup => c.addClass ⟨id, text "name", fs.text? "description", text "access_code",
      text "admin_id", now, fs.flag? "active", (Json.field? fs "configs").getD .null⟩
  | .student => do
    c.addStudent ⟨id, text "name", text "email", ← secret fs, fs.text? "registration_number", now,
      none, fs.flag? "active", text "class_group_id"⟩
  | .enrollment => c.addEnrollment ⟨id, text "student_id", text "class_group_id", now,
      ((fs.text? "status").bind EnrollmentStatus.ofName?).getD .pending⟩
  | .node => .error .unlisted
  | .folder => c.addContent (content fs id now
      (.folder (fs.text? "color") (fs.text? "icon") (fs.flag? "allow_upload")))
  | .file => c.addContent (content fs id now
      (.file (text "drive_file_id") (text "drive_url") (text "original_name") (text "mime_type")
        ((fs.whole? "size").getD 0) ((fs.whole? "version").getD 1) now (fs.text? "file_hash")))
  | .video => c.addContent (content fs id now
      (.video (text "youtube_id") (text "full_url") (fs.whole? "duration")
        (fs.text? "thumbnail_url") (fs.text? "channel") none))
  | .area => c.addArea ⟨id, text "name", fs.text? "description", fs.text? "icon",
      fs.text? "color", fs.whole? "order", fs.flag? "active", now, now⟩
  | .subarea => c.addSubarea ⟨id, text "math_area_id", text "name", fs.text? "description",
      fs.whole? "order", fs.flag? "active", now, now⟩
  | .question => c.addQuestion ⟨id, text "math_area_id", fs.text? "math_subarea_id", text "title",
      text "content", fs.text? "content_latex", fs.text? "answer", fs.text? "answer_latex",
      fs.text? "explanation", fs.text? "explanation_latex",
      ((fs.text? "difficulty").bind Difficulty.ofName?).getD .medium,
      (Json.field? fs "tags").getD .null, fs.flag? "active", text "created_by", now, now⟩
  | .answer => c.addAnswer ⟨id, text "student_id", text "question_id", text "content",
      fs.text? "content_latex", ((fs.text? "status").bind ReviewStatus.ofName?).getD .pending,
      fs.flag? "is_correct", fs.text? "feedback", (Json.field? fs "score").getD .null,
      fs.text? "reviewed_by", none⟩
  | .access => record .access
  | .classSetting => record .classSetting
  | .permission => record .permission
  | .drive => record .drive
  | .notification => record .notification
  | .progress => record .progress

/-- Enters a row. Its identifier may be given; else one is drawn, which is spent even if the row
cannot be kept. -/
def make (c : Campus) (now : Instant) (t : Table) (given : Fields) : Deed (Id × String) :=
  let names := "id" :: t.columns.map Column.name
  if given.any fun f => !names.contains f.1 then .broken c .strangeField
  else
    let (id, before) := match given.text? "id" with
      | some id => (id, c)
      | none => (c.nextId, c.spend 1)
    let row := do
      let fs ← complete t given
      let after ← insert t fs id now before
      return ((id, t.called id fs), after)
    match row with
    | .ok (x, after) => .answered after x
    | .error f => .broken before f

end Entry

end LogicTutor
