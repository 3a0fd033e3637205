import LogicTutor.Json.Basic
import LogicTutor.Time.Calendar

/-! What an online campus keeps: administrators and their classes, students, contents, questions
by area, and the students' answers. -/
namespace LogicTutor

/-- Rows are told apart by their identifiers. -/
abbrev Id := String

/-- A password as it is kept: without one, no password opens the account. -/
abbrev Secret := Option String

inductive EnrollmentStatus where
  | active | inactive | pending
  deriving DecidableEq, Repr

inductive Visibility where
  /-- For everybody in the class. -/
  | shown
  /-- For the administrator only. -/
  | hidden
  | restricted
  deriving DecidableEq, Repr

inductive Difficulty where
  | easy | medium | hard | expert
  deriving DecidableEq, Repr

inductive ReviewStatus where
  | pending | approved | rejected
  deriving DecidableEq, Repr

namespace EnrollmentStatus

def name : EnrollmentStatus → String
  | active => "ativo"
  | inactive => "inativo"
  | pending => "pendente"

def ofName? : String → Option EnrollmentStatus
  | "ativo" => some active
  | "inativo" => some inactive
  | "pendente" => some pending
  | _ => none

end EnrollmentStatus

namespace Visibility

def name : Visibility → String
  | shown => "publico"
  | hidden => "privado"
  | restricted => "restrito"

def ofName? : String → Option Visibility
  | "publico" => some shown
  | "privado" => some hidden
  | "restrito" => some restricted
  | _ => none

end Visibility

namespace Difficulty

def name : Difficulty → String
  | easy => "facil"
  | medium => "medio"
  | hard => "dificil"
  | expert => "especialista"

def ofName? : String → Option Difficulty
  | "facil" => some easy
  | "medio" => some medium
  | "dificil" => some hard
  | "especialista" => some expert
  | _ => none

end Difficulty

namespace ReviewStatus

def ofName? : String → Option ReviewStatus
  | "pendente" => some pending
  | "aprovado" => some approved
  | "rejeitado" => some rejected
  | _ => none

end ReviewStatus

structure Admin where
  id : Id
  name : String
  email : String
  password : Secret
  active : Option Bool
  deriving Repr

/-- A class of one administrator, which students join by its access code. -/
structure ClassGroup where
  id : Id
  name : String
  description : Option String
  accessCode : String
  adminId : Id
  createdAt : Instant
  active : Option Bool
  configs : Json
  deriving Repr

structure Student where
  id : Id
  name : String
  email : String
  password : Secret
  registration : Option String
  createdAt : Instant
  lastAccess : Option Instant
  active : Option Bool
  classId : Id
  deriving Repr

structure Enrollment where
  id : Id
  studentId : Id
  classId : Id
  date : Instant
  status : EnrollmentStatus
  deriving Repr

/-- What sets the kinds of content apart. -/
inductive Material where
  | folder (color icon : Option String) (allowUpload : Option Bool)
  | file (driveId driveUrl fileName mimeType : String) (size : Int) (version : Int)
      (uploaded : Instant) (hash : Option String)
  | video (videoId url : String) (duration : Option Int) (thumbnail channel : Option String)
      (published : Option String)
  deriving Repr

namespace Material

def isFolder : Material → Bool
  | folder _ _ _ => true
  | _ => false

def kindName : Material → String
  | folder _ _ _ => "pasta"
  | file _ _ _ _ _ _ _ _ => "arquivo"
  | video _ _ _ _ _ _ => "youtube"

end Material

/-- Content of a class. It lies in a folder, its parent, or at the top. -/
structure Content where
  id : Id
  title : String
  description : Option String
  classId : Id
  parentId : Option Id
  order : Option Int
  visibility : Visibility
  createdBy : Id
  createdAt : Instant
  updatedAt : Instant
  notes : Json
  material : Material
  deriving Repr

structure Area where
  id : Id
  name : String
  description : Option String
  icon : Option String
  color : Option String
  order : Option Int
  active : Option Bool
  createdAt : Instant
  updatedAt : Instant
  deriving Repr

structure Subarea where
  id : Id
  areaId : Id
  name : String
  description : Option String
  order : Option Int
  active : Option Bool
  createdAt : Instant
  updatedAt : Instant
  deriving Repr

structure Question where
  id : Id
  areaId : Id
  subareaId : Option Id
  title : String
  content : String
  contentLatex : Option String
  answer : Option String
  answerLatex : Option String
  explanation : Option String
  explanationLatex : Option String
  difficulty : Difficulty
  tags : Json
  active : Option Bool
  createdBy : Id
  createdAt : Instant
  updatedAt : Instant
  deriving Repr

/-- The answer of a student to a question. When it was given is not kept. -/
structure Answer where
  id : Id
  studentId : Id
  questionId : Id
  content : String
  contentLatex : Option String
  status : ReviewStatus
  isCorrect : Option Bool
  feedback : Option String
  score : Json
  reviewedBy : Option Id
  reviewedAt : Option Instant
  deriving Repr

/-- Records that nothing reads, but that hold on to a student, a content or a class. -/
inductive RecordKind where
  | access | permission | progress | notification | classSetting | drive
  deriving DecidableEq, Repr

structure Record where
  id : Id
  kind : RecordKind
  studentId : Option Id
  contentId : Option Id
  classId : Option Id
  deriving Repr

namespace RecordKind

/-- A record of the kind must not lose its student. -/
def needsStudent : RecordKind → Bool
  | access | progress | notification => true
  | _ => false

def needsContent : RecordKind → Bool
  | access | permission | progress => true
  | _ => false

def needsClass : RecordKind → Bool
  | classSetting | drive => true
  | _ => false

end RecordKind

end LogicTutor
