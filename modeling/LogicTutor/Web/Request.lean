import LogicTutor.Campus.Fields
import LogicTutor.Campus.Row
import LogicTutor.Credential.Basic
import LogicTutor.Reply.Basic

/-! Requests to the web application, who makes them, and the responses. -/
namespace LogicTutor.Web

inductive Body where
  | absent
  | json (value : Json)
  | raw (text : String) (type : String)
  deriving Repr

structure Request where
  method : String
  path : String
  /-- The whole authorization header. -/
  auth : Option String
  body : Body
  query : Fields
  /-- What the video catalogue replies, if it can be asked. -/
  catalogue : Option Json
  deriving Repr

/-- The body is null if there is none. -/
structure Response where
  status : Nat
  body : Json
  deriving Repr

namespace Response

def ofReply (r : Reply) : Response := ⟨r.status, r.body⟩

/-- An error that is told by its name only. -/
def plain (status : Nat) (name : String) : Response :=
  ⟨status, .obj [("message", .str name), ("detail", .obj [])]⟩

def badRequest : Response := plain 400 "Bad Request"

def unauthorized : Response := plain 401 "Unauthorized"

def forbidden : Response := plain 403 "Forbidden"

def notFound : Response := plain 404 "Not Found"

def methodNotAllowed : Response := plain 405 "Method Not Allowed"

/-- The complaints about the part of a request that stood in `place`. -/
def invalid (place : String) (complaints : Json) : Response :=
  ⟨400, .obj [("message", .str "Validation error"), ("detail", .obj [(place, complaints)])]⟩

/-- The response as it is sent for a method: only its head, if nothing else was asked for. -/
def sentFor (r : Response) (method : String) : Response :=
  if method = "HEAD" then { r with body := .null } else r

end Response

/-- A content type that announces JSON. -/
def isJsonType (type : String) : Bool :=
  let name := String.ofList (((type.splitOn ";").headD "").toList.map Char.toLower)
  let name := (name.trimAscii).toString
  name = "application/json" || (name.startsWith "application/" && name.endsWith "+json")

/-- What the body says; without one, or if it is of another type, it counts as an empty object.
There is no value if it cannot be read. -/
def Body.value? : Body → Option Json
  | .absent => some (.obj [])
  | .json v => some v
  | .raw text type =>
    if !isJsonType type || text.isEmpty then some (.obj []) else Json.parse? text

/-- Who makes a request, by the claims of the credential. -/
structure Caller where
  id : Json
  email : Json
  name : Json
  deriving Repr

namespace Caller

def nobody : Caller := ⟨.null, .null, .null⟩

def ofClaims (cs : Claims) : Caller :=
  let claim := fun key => (Json.field? cs key).getD .null
  ⟨claim "sub", claim "email", claim "name"⟩

def key (c : Caller) : Id := c.id.str?.getD ""

end Caller

/-- Who may make a request. -/
inductive Guard where
  | anyone
  | student
  | admin
  deriving DecidableEq, Repr

/-- Why somebody is turned away. -/
inductive Denial where
  | unauthorized
  | forbidden
  deriving DecidableEq, Repr

/-- The credential in an authorization header. -/
def bearer? (auth : Option String) : Option String :=
  (auth.bind fun a => if a.startsWith "Bearer " then some (a.drop 7).toString else none).filter
    (!·.isEmpty)

namespace Guard

/-- Lets the caller in or turns the caller away. A credential for access is taken from everybody;
administrators need one that says so. -/
def check (g : Guard) (auth : Option String) (now : Instant) :
    Except Credential.Refusal (Except Denial Caller) :=
  match g with
  | anyone => .ok (.ok .nobody)
  | _ =>
    match bearer? auth with
    | none => .ok (.error .unauthorized)
    | some s => do
      match ← Credential.verify Credential.Use.access.name s now with
      | none => return .error .unauthorized
      | some cs =>
        let isAdmin := match Json.field? cs "role" with
          | some (.str r) => r = "admin"
          | _ => false
        if g = .admin && !isAdmin then return .error .forbidden
        return .ok (.ofClaims cs)

end Guard

def Denial.response : Denial → Response
  | .unauthorized => .unauthorized
  | .forbidden => .forbidden

end LogicTutor.Web
