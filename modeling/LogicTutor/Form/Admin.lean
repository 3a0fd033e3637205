import LogicTutor.Form.Basic

/-! The forms of the administration. -/
namespace LogicTutor.Form

def required (name : String) (shape : Shape) (rules : List Rule) : Field :=
  ⟨name, shape, .required, rules⟩

def optional (name : String) (shape : Shape) (rules : List Rule) : Field :=
  ⟨name, shape, .optional, rules⟩

/-- A field that is null unless it is given. -/
def nullable (name : String) (shape : Shape) (rules : List Rule) : Field :=
  ⟨name, shape, .filled .null, rules⟩

def filled (name : String) (shape : Shape) (default : Json) (rules : List Rule) : Field :=
  ⟨name, shape, .filled default, rules⟩

def signIn : Form := [required "email" .email [], required "password" .text []]

def difficulties : List String := ["facil", "medio", "dificil", "especialista"]

def visibilities : List String := ["publico", "privado", "restrito"]

def contentTypes : List String := ["pasta", "arquivo", "youtube"]

/-! Classes and students. -/

def newClass : Form :=
  [required "name" .text [.length 2 100], optional "description" .text [],
   required "access_code" .text [.length 4 20], optional "configs" .mapping []]

def classChange : Form :=
  [optional "name" .text [.length 2 100], optional "description" .text [],
   optional "access_code" .text [.length 4 20], optional "active" .flag [],
   optional "configs" .mapping []]

def classQuery : Form := [optional "active" .flag [], optional "search" .text []]

def newStudent : Form :=
  [required "name" .text [.length 2 100], required "email" .email [],
   required "password" .text [.lengthFrom 6], optional "registration_number" .text [],
   required "class_group_id" .text []]

def studentChange : Form :=
  [optional "name" .text [.length 2 100], optional "email" .email [],
   optional "password" .text [.lengthFrom 6], optional "registration_number" .text [],
   optional "class_group_id" .text [], optional "active" .flag []]

def studentQuery : Form :=
  [optional "class_group_id" .text [], optional "active" .flag [], optional "search" .text []]

/-! Contents. -/

/-- What contents of every kind have. -/
def contentBase : Form :=
  [required "title" .text [.length 1 200], optional "description" .text [],
   required "class_group_id" .text [], optional "parent_id" .text [], optional "order" .whole [],
   optional "visibility" .text [.oneOf visibilities], optional "meta_data" .mapping []]

def folderFields : Form := [optional "color" .text [], optional "icon" .text []]

def newFolder : Form :=
  contentBase ++ filled "type" .text (.str "pasta") [] :: folderFields ++
    [filled "allow_upload" .flag (.bool false) []]

def newFile : Form :=
  contentBase ++
    [filled "type" .text (.str "arquivo") [], required "drive_file_id" .text [],
     required "drive_url" .text [], required "original_name" .text [],
     required "mime_type" .text [], required "size" .whole [], optional "file_hash" .text []]

def newVideo : Form :=
  contentBase ++
    [filled "type" .text (.str "youtube") [], required "youtube_id" .text [],
     required "full_url" .text [], optional "duration" .whole [],
     optional "thumbnail_url" .text [], optional "channel" .text [],
     optional "published_at" .date []]

/-- Content of any kind. -/
def newContent : Form :=
  required "type" .text [.oneOf contentTypes] :: contentBase ++ folderFields ++
    [filled "allow_upload" .flag (.bool false) [], optional "drive_file_id" .text [],
     optional "drive_url" .text [], optional "original_name" .text [],
     optional "mime_type" .text [], optional "size" .whole [], optional "file_hash" .text [],
     optional "youtube_id" .text [], optional "full_url" .text [], optional "duration" .whole [],
     optional "thumbnail_url" .text [], optional "channel" .text [],
     optional "published_at" .date []]

def contentChange : Form :=
  [optional "title" .text [.length 1 200], optional "description" .text [],
   optional "parent_id" .text [], optional "order" .whole [],
   optional "visibility" .text [.oneOf visibilities], optional "meta_data" .mapping []] ++
    folderFields ++
    [optional "allow_upload" .flag [], optional "duration" .whole [],
     optional "thumbnail_url" .text [], optional "channel" .text []]

def contentQuery : Form :=
  [optional "class_group_id" .text [], optional "parent_id" .text [],
   optional "type" .text [.oneOf contentTypes],
   optional "visibility" .text [.oneOf visibilities], optional "search" .text []]

/-! Areas, questions and answers. -/

def newArea : Form :=
  [required "name" .text [.length 1 100], nullable "description" .text [],
   nullable "icon" .text [.lengthTo 50], nullable "color" .text [.lengthTo 20],
   filled "order" .whole (.int 0) []]

def areaChange : Form :=
  [nullable "name" .text [.length 1 100], nullable "description" .text [],
   nullable "icon" .text [.lengthTo 50], nullable "color" .text [.lengthTo 20],
   nullable "order" .whole [], nullable "active" .flag []]

def newSubarea : Form :=
  [required "name" .text [.length 1 100], nullable "description" .text [],
   filled "order" .whole (.int 0) []]

def subareaChange : Form :=
  [nullable "name" .text [.length 1 100], nullable "description" .text [],
   nullable "order" .whole [], nullable "active" .flag []]

/-- The texts of a question beside its content. -/
def questionTexts : Form :=
  [nullable "content_latex" .text [], nullable "answer" .text [], nullable "answer_latex" .text [],
   nullable "explanation" .text [], nullable "explanation_latex" .text []]

def newQuestion : Form :=
  [required "math_area_id" .text [], nullable "math_subarea_id" .text [],
   required "title" .text [.length 1 255], required "content" .text []] ++ questionTexts ++
  [filled "difficulty" .text (.str "medio") [.oneOf difficulties],
   filled "tags" (.list .text) (.arr []) []]

def questionChange : Form :=
  [nullable "math_area_id" .text [], nullable "math_subarea_id" .text [],
   nullable "title" .text [.length 1 255], nullable "content" .text []] ++ questionTexts ++
  [nullable "difficulty" .text [.oneOf difficulties], nullable "tags" (.list .text) [],
   nullable "active" .flag []]

def questionQuery : Form :=
  [nullable "math_area_id" .text [], nullable "math_subarea_id" .text [],
   nullable "difficulty" .text [], nullable "active" .flag [], nullable "search" .text []]

def review : Form :=
  [required "status" .text [.oneOf ["aprovado", "rejeitado"]], nullable "is_correct" .flag [],
   nullable "feedback" .text [], nullable "score" .number []]

def answerQuery : Form :=
  [nullable "question_id" .text [], nullable "student_id" .text [],
   nullable "status" .text [.oneOf ["pendente", "aprovado", "rejeitado"]]]

end LogicTutor.Form
