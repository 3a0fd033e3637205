import LogicTutor.Form.Platform
import LogicTutor.Web.Request

/-! The addresses of the web application, and what each of them asks of a request. -/
namespace LogicTutor.Web

/-- What a request can ask for. -/
inductive Endpoint where
  | adminSignIn
  | classList | classGet | classCreate | classUpdate | classDelete
  | studentList | studentGet | studentCreate | studentUpdate | studentDelete
  | contentList | contentGet | contentCreate | contentUpdate | contentDelete
  | videoInfo
  | areaList | areaGet | areaCreate | areaUpdate | areaDelete
  | subareaList | subareaGet | subareaCreate | subareaUpdate | subareaDelete
  | questionList | questionGet | questionCreate | questionUpdate | questionDelete
  | questionLatex
  | answerList | answerGet | answerReview | answerDelete | answersOfQuestion | answerTally
  | signIn | signUp
  | courses
  | lessonList | lessonGet | lessonWay
  | profileGet | profileUpdate | passwordChange
  | status | prove | spelling | methods
  | exerciseList | exerciseGet | exerciseAnswer | exerciseApproved | exerciseAreas
  | exerciseSubareas | exerciseLatex
  deriving DecidableEq, Repr

/-- Where the fields of a request stand. -/
inductive Place where
  | body
  | query
  deriving DecidableEq, Repr

def Place.name : Place → String
  | .body => "json"
  | .query => "query"

structure Route where
  method : String
  /-- The parts of the address; a star stands for any one that is not empty. -/
  parts : List String
  endpoint : Endpoint
  guard : Guard
  form : Option (Place × Form)
  /-- The caller is checked before the form. -/
  guardFirst : Bool
  deriving Repr

/-- The form with nothing but a text. -/
def textForm : Form := [Form.required "text" .text []]

def lessonQuery : Form := [Form.nullable "parent_id" .text []]

def route (method address : String) (endpoint : Endpoint) (guard : Guard)
    (form : Option (Place × Form)) : Route :=
  ⟨method, address.splitOn "/", endpoint, guard, form, false⟩

/-- The five usual routes of a kind of row that administrators keep. -/
def kept (address : String) (list get create update delete : Endpoint)
    (query : Option (Place × Form)) (draft change : Form) : List Route :=
  [route "GET" address list .admin query,
   route "POST" address create .admin (some (.body, draft)),
   route "GET" (address ++ "/*") get .admin none,
   route "PUT" (address ++ "/*") update .admin (some (.body, change)),
   route "DELETE" (address ++ "/*") delete .admin none]

/-- All routes; of those that fit a request, the first counts. -/
def routes : List Route :=
  [route "POST" "/api/admin/auth/signin" .adminSignIn .anyone (some (.body, Form.signIn))] ++
  kept "/api/admin/class-groups" .classList .classGet .classCreate .classUpdate .classDelete
    (some (.query, Form.classQuery)) Form.newClass Form.classChange ++
  kept "/api/admin/students" .studentList .studentGet .studentCreate .studentUpdate
    .studentDelete (some (.query, Form.studentQuery)) Form.newStudent Form.studentChange ++
  kept "/api/admin/content-nodes" .contentList .contentGet .contentCreate .contentUpdate
    .contentDelete (some (.query, Form.contentQuery)) Form.newContent Form.contentChange ++
  [route "GET" "/api/admin/youtube/video-info/*" .videoInfo .admin none] ++
  kept "/api/admin/math-areas" .areaList .areaGet .areaCreate .areaUpdate .areaDelete none
    Form.newArea Form.areaChange ++
  [route "GET" "/api/admin/math-areas/*/subareas" .subareaList .admin none,
   route "POST" "/api/admin/math-areas/*/subareas" .subareaCreate .admin
     (some (.body, Form.newSubarea)),
   route "GET" "/api/admin/math-subareas/*" .subareaGet .admin none,
   route "PUT" "/api/admin/math-subareas/*" .subareaUpdate .admin
     (some (.body, Form.subareaChange)),
   route "DELETE" "/api/admin/math-subareas/*" .subareaDelete .admin none,
   route "POST" "/api/admin/questions/convert-latex" .questionLatex .admin
     (some (.body, textForm))] ++
  kept "/api/admin/questions" .questionList .questionGet .questionCreate .questionUpdate
    .questionDelete (some (.query, Form.questionQuery)) Form.newQuestion Form.questionChange ++
  [route "GET" "/api/admin/answers" .answerList .admin (some (.query, Form.answerQuery)),
   route "GET" "/api/admin/answers/*" .answerGet .admin none,
   route "PUT" "/api/admin/answers/*/review" .answerReview .admin (some (.body, Form.review)),
   route "DELETE" "/api/admin/answers/*" .answerDelete .admin none,
   route "GET" "/api/admin/questions/*/answers" .answersOfQuestion .admin none,
   route "GET" "/api/admin/questions/*/answers/stats" .answerTally .admin none,
   route "POST" "/api/auth/signin" .signIn .anyone (some (.body, Form.signIn)),
   route "POST" "/api/auth/signup" .signUp .anyone (some (.body, Form.signUp)),
   route "GET" "/api/courses" .courses .student none,
   route "GET" "/api/content/class/*" .lessonList .student (some (.query, lessonQuery)),
   route "GET" "/api/content/*" .lessonGet .student none,
   route "GET" "/api/content/*/breadcrumbs" .lessonWay .student none,
   route "GET" "/api/profile" .profileGet .student none,
   { route "PUT" "/api/profile" .profileUpdate .student (some (.body, Form.profileChange)) with
     guardFirst := true },
   { route "PUT" "/api/profile/password" .passwordChange .student
       (some (.body, Form.passwordChange)) with guardFirst := true },
   route "GET" "/status" .status .anyone none,
   route "POST" "/prove" .prove .anyone (some (.body, Form.proofRequest)),
   route "GET" "/syntax" .spelling .anyone none,
   route "GET" "/methods" .methods .anyone none,
   route "GET" "/api/questions" .exerciseList .anyone (some (.query, Form.questionSearch)),
   route "GET" "/api/questions/math-areas" .exerciseAreas .anyone none,
   route "GET" "/api/questions/math-areas/*/subareas" .exerciseSubareas .anyone none,
   route "POST" "/api/questions/convert-latex" .exerciseLatex .anyone (some (.body, textForm)),
   route "GET" "/api/questions/*" .exerciseGet .anyone none,
   route "POST" "/api/questions/*/answer" .exerciseAnswer .anyone (some (.body, Form.newAnswer)),
   route "GET" "/api/questions/*/approved-answers" .exerciseApproved .anyone none]

/-- The parts of an address that stand at the stars of a pattern, if it fits. -/
def params? : List String → List String → Option (List String)
  | [], [] => some []
  | "*" :: ps, x :: xs => if x.isEmpty then none else (params? ps xs).map (x :: ·)
  | p :: ps, x :: xs => if p = x then params? ps xs else none
  | _, _ => none

/-- What becomes of an address and a method. -/
inductive Target where
  | found (r : Route) (params : List String)
  /-- It is only asked what methods there are. -/
  | options
  | wrongMethod
  | unknown

/-- The routes of an address with what stands at their stars. -/
def fitting (path : String) : List (Route × List String) :=
  routes.filterMap fun r => (params? r.parts (path.splitOn "/")).map fun ps => (r, ps)

/-- A request for the head of a response goes where one for the whole goes. -/
def target (method path : String) : Target :=
  let fit := fitting path
  let method := if method = "HEAD" then "GET" else method
  match fit.find? fun r => r.1.method = method with
  | some (r, ps) => .found r ps
  | none => if fit.isEmpty then .unknown else if method = "OPTIONS" then .options else .wrongMethod

end LogicTutor.Web
