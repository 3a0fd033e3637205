import LogicTutor.Campus.Action
import LogicTutor.Tutor.Guide
import LogicTutor.Tutor.Verdict
import LogicTutor.Video
import LogicTutor.Web.Route

/-! The web application: it takes requests one after the other, each at its time, and answers
them. -/
namespace LogicTutor.Web

structure App where
  campus : Campus
  session : Session Chance
  /-- The models for proofs are there. -/
  ready : Bool

/-- Why a request got no response. -/
inductive Breakdown where
  | campus (f : Failure)
  | prover (f : Fault)
  | credential (r : Credential.Refusal)
  deriving DecidableEq, Repr

/-- How the outcome of an action is told. -/
inductive Style where
  /-- Data and message; a problem cannot be told. -/
  | plain
  | created
  /-- Only the message; a problem cannot be told. -/
  | message
  /-- A problem means that something is missing. -/
  | lookup
  /-- A problem means that the caller is not let in. -/
  | login
  /-- A problem is told, and the one that something is missing by its own status. -/
  | change
  /-- Only the message; a problem is told. -/
  | secret
  /-- The data is the LaTeX form of a text. -/
  | latex
  deriving DecidableEq, Repr

namespace Style

def onSuccess (s : Style) (data : Json) (message : Option String) : Reply :=
  match s with
  | .created => .succeed .created data message
  | .message | .secret => .succeed .ok .null message
  | .lookup => .succeed .ok data none
  | .latex => .succeed .ok (.obj [("latex", data)]) none
  | .plain | .login | .change => .succeed .ok data message

def onProblem (s : Style) (p : Problem) : Except Failure Reply :=
  match s with
  | .lookup => .ok (.missing p.message "")
  | .login => .ok (.fail .unauthorized p.message [])
  | .change =>
    .ok (if p.code = "NOT_FOUND" then .missing p.message "" else .fail .badRequest p.message [p])
  | .secret => .ok (.fail .badRequest p.message [p])
  | .plain | .created | .message | .latex => .error .unreported

end Style

/-- What the action at an endpoint depends on. -/
structure Call where
  caller : Caller
  params : List String
  fields : Fields

namespace Call

variable (x : Call)

def id : Id := x.params.headD ""

def text (key : String) : Option String := x.fields.text? key

end Call

/-- The action that an endpoint stands for, and how its outcome is told. Some endpoints stand for
none. -/
def Endpoint.action? (x : Call) : Endpoint → Option (Action × Style)
  | adminSignIn => some (.adminSignIn (x.text "email") (x.text "password"), .login)
  | classList =>
    some (.listClasses x.caller.key (x.fields.flag? "active") (x.text "search"), .lookup)
  | classGet => some (.getClass x.caller.key x.id, .lookup)
  | classCreate => some (.createClass x.caller.key (.ofFields x.fields), .created)
  | classUpdate => some (.updateClass x.caller.key x.id (.ofFields x.fields), .plain)
  | classDelete => some (.deleteClass x.caller.key x.id, .message)
  | studentList =>
    some (.listStudents x.caller.key (x.text "class_group_id") (x.fields.flag? "active")
      (x.text "search"), .lookup)
  | studentGet => some (.getStudent x.caller.key x.id, .lookup)
  | studentCreate => some (.createStudent x.caller.key (.ofFields x.fields), .created)
  | studentUpdate => some (.updateStudent x.caller.key x.id (.ofFields x.fields), .plain)
  | studentDelete => some (.deleteStudent x.caller.key x.id, .message)
  | contentList => some (.listContents x.caller.key (.ofFields x.fields "type"), .lookup)
  | contentGet => some (.getContent x.caller.key x.id, .lookup)
  | contentCreate => some (.createContent x.caller.key (.ofFields x.fields), .created)
  | contentUpdate => some (.updateContent x.caller.key x.id (.ofFields x.fields), .plain)
  | contentDelete => some (.deleteContent x.caller.key x.id, .message)
  | areaList => some (.listAreas true, .lookup)
  | areaGet => some (.getArea x.id, .lookup)
  | areaCreate => some (.createArea (.ofFields x.fields), .created)
  | areaUpdate => some (.updateArea x.id (.ofFields x.fields), .plain)
  | areaDelete => some (.deleteArea x.id, .message)
  | subareaList => some (.listSubareas x.id true, .lookup)
  | subareaGet => some (.getSubarea x.id, .lookup)
  | subareaCreate => some (.createSubarea x.id (.ofFields x.fields), .created)
  | subareaUpdate => some (.updateSubarea x.id (.ofFields x.fields), .plain)
  | subareaDelete => some (.deleteSubarea x.id, .message)
  | questionList => some (.listQuestions (.ofFields x.fields), .lookup)
  | questionGet => some (.getQuestion x.id, .lookup)
  | questionCreate => some (.createQuestion (some x.caller.key) (.ofFields x.fields), .created)
  | questionUpdate => some (.updateQuestion x.id (.ofFields x.fields), .plain)
  | questionDelete => some (.deleteQuestion x.id, .message)
  | questionLatex => some (.convertQuestion (x.text "text"), .latex)
  | answerList | answersOfQuestion => some (.listAnswers, .plain)
  | answerGet => some (.getAnswer x.id, .lookup)
  | answerReview =>
    some (.reviewAnswer (some x.caller.key) x.id (.ofFields x.fields), .plain)
  | answerDelete => some (.deleteAnswer x.id, .message)
  | answerTally => some (.tallyAnswers x.id, .lookup)
  | signIn => some (.signIn (x.text "email") (x.text "password"), .login)
  | signUp => some (.signUp (.ofFields x.fields), .created)
  | courses => some (.listCourses x.caller.key, .plain)
  | lessonList => some (.listLessons x.caller.key x.id (x.fields.given? "parent_id"), .plain)
  | lessonGet => some (.getLesson x.caller.key x.id, .plain)
  | lessonWay => some (.getWay x.caller.key x.id, .plain)
  | profileGet => some (.getProfile x.caller.key, .lookup)
  | profileUpdate =>
    some (.changeProfile x.caller.key (x.fields.given? "name") (x.fields.given? "email"), .change)
  | passwordChange =>
    some (.changePassword x.caller.key (x.text "current_password") (x.text "new_password")
      (x.text "confirm_password"), .secret)
  | exerciseApproved => some (.listApproved, .plain)
  | exerciseAreas => some (.chooseArea, .plain)
  | exerciseSubareas => some (.chooseSubarea x.id, .plain)
  | exerciseLatex => some (.convertAnswer (x.text "text"), .latex)
  | exerciseList | exerciseGet | exerciseAnswer => none
  | videoInfo | status | prove | spelling | methods => none

def noVideo : String :=
  "Nao foi possivel obter informacoes do video. Verifique se o ID esta correto e se a API key " ++
    "do YouTube esta configurada."

/-- What is told of a video; all that goes wrong in asking for it is told in one way. -/
def videoReply (id : String) (catalogue : Option Json) : Reply :=
  match catalogue.map (Video.ofReply id) with
  | some (.ok (some v)) => .succeed .ok v.json none
  | _ => .fail .badRequest (some noVideo) []

namespace App

/-- Does an action and tells its outcome. -/
def act (a : App) (now : Instant) (action : Action) (style : Style) :
    Except Breakdown Response × App :=
  let d := action.perform a.campus now
  let reply : Except Failure Reply := match d.result with
    | .error f => .error f
    | .ok (.success v m) => .ok (style.onSuccess v m)
    | .ok (.failure p) => style.onProblem p
  ((reply.map Response.ofReply).mapError .campus, { a with campus := d.campus })

/-- Judges two texts; of a reply only what belongs to a judgement is told. -/
def judge (a : App) (fields : Fields) : Except Breakdown Response × App :=
  let text := fun key => (fields.text? key).getD ""
  let tell := (Shape.record Form.proofRecord).tell
  match Verdict.ofTexts (.ofName (text "method")) ((fields.whole? "max_iterations").getD 0).toNat
      (text "proposition1") (text "proposition2") a.session with
  | .error f => (.error (.prover f), a)
  | .ok (.success v _, s) => (.ok ⟨200, tell v.json⟩, { a with session := s })
  | .ok (.failure p, s) =>
    let r := Reply.fail .badRequest p.message [p]
    (.ok ⟨r.status, tell r.body⟩, { a with session := s })

/-- Answers at an endpoint, once the request was let through. -/
def answer (a : App) (now : Instant) (catalogue : Option Json) (e : Endpoint) (x : Call) :
    Except Breakdown Response × App :=
  match e.action? x with
  | some (action, style) => a.act now action style
  | none =>
    match e with
    | .videoInfo => (.ok (.ofReply (videoReply x.id catalogue)), a)
    | .status => (.ok ⟨200, (Shape.record Form.statusRecord).tell (Guide.status a.ready)⟩, a)
    | .prove => a.judge x.fields
    | .spelling => (.ok ⟨200, Guide.spelling⟩, a)
    | .methods => (.ok ⟨200, Guide.methods⟩, a)
    | _ => (.error (.campus .unidentified), a)

end App

/-- Checks the fields of a request by the form of its route. -/
def readForm (r : Request) : Option (Place × Form) → Except Response Fields
  | none => .ok []
  | some (place, form) => do
    let value ← match place with
      | .query => pure (Json.obj r.query)
      | .body => match r.body.value? with
        | some v => pure v
        | none => .error .badRequest
    match Form.load form (place = .query) value with
    | .ok fs => .ok fs
    | .error complaint => .error (.invalid place.name complaint.json)

/-- Everything that has to be in order before an endpoint answers. -/
def letThrough (r : Request) (now : Instant) (route : Route) :
    Except Credential.Refusal (Except Response (Caller × Fields)) :=
  let check := (route.guard.check r.auth now).map (·.mapError Denial.response)
  match readForm r route.form with
  | .ok fs => check.map (·.map (·, fs))
  | .error response =>
    if route.guardFirst then check.map (·.bind fun _ => .error response)
    else .ok (.error response)

namespace App

/-- Takes a request at the time `now`. -/
def handle (a : App) (now : Instant) (r : Request) : Except Breakdown Response × App :=
  match target r.method r.path with
  | .unknown => (.ok .notFound, a)
  | .wrongMethod => (.ok .methodNotAllowed, a)
  | .options => (.ok ⟨200, .null⟩, a)
  | .found route params =>
    match letThrough r now route with
    | .error e => (.error (.credential e), a)
    | .ok (.error response) => (.ok (response.sentFor r.method), a)
    | .ok (.ok (caller, fields)) =>
      let (response, a) := a.answer now r.catalogue route.endpoint ⟨caller, params, fields⟩
      (response.map (·.sentFor r.method), a)

end App

end LogicTutor.Web
