import LogicTutor.Json.Basic
import LogicTutor.Time.Calendar

/-! Replies to requests: a status, and either data or the problems that stood in the way. -/
namespace LogicTutor

/-- One thing that is wrong. -/
structure Problem where
  code : String
  message : Option String
  field : Option String
  details : Option Json
  deriving Repr

namespace Problem

def plain (code message : String) : Problem := ⟨code, some message, none, none⟩

/-- A problem with a field of the request. -/
def about (code message field : String) : Problem := ⟨code, some message, some field, none⟩

def json (p : Problem) : Json :=
  .obj ([("code", .str p.code), ("message", .ofOption p.message)] ++
    (p.field.map fun f => ("field", Json.str f)).toList ++
    (p.details.map fun d => ("details", d)).toList)

/-- The problems found by checking fields, one for each message. -/
def ofMessages (errors : List (String × List String)) : List Problem :=
  errors.flatMap fun e => e.2.map fun m => about "VALIDATION_ERROR" m e.1

end Problem

structure Reply where
  status : Nat
  success : Bool
  /-- Null if there is nothing to hand over. -/
  data : Json
  message : Option String
  problems : List Problem
  notes : List (String × Json)
  deriving Repr

namespace Reply

def body (r : Reply) : Json :=
  .obj ([("status", .str (if r.success then "success" else "error"))] ++
    (if r.data.isNull then [] else [("data", r.data)]) ++
    (r.message.map fun m => ("message", Json.str m)).toList ++
    (if r.problems.isEmpty then [] else [("errors", .arr (r.problems.map Problem.json))]) ++
    (if r.notes.isEmpty then [] else [("meta", .obj r.notes)]))

/-- The usual replies. -/
inductive Kind where
  | ok | created | accepted | noContent
  | badRequest | unauthorized | forbidden | notFound | conflict | unprocessable | internalError
  | unavailable
  deriving DecidableEq, Repr

namespace Kind

def status : Kind → Nat
  | .ok => 200
  | .created => 201
  | .accepted => 202
  | .noContent => 204
  | .badRequest => 400
  | .unauthorized => 401
  | .forbidden => 403
  | .notFound => 404
  | .conflict => 409
  | .unprocessable => 422
  | .internalError => 500
  | .unavailable => 503

/-- The code of the problem that a refusal names. -/
def code : Kind → String
  | .badRequest => "BAD_REQUEST"
  | .unauthorized => "UNAUTHORIZED"
  | .forbidden => "FORBIDDEN"
  | .notFound => "NOT_FOUND"
  | .conflict => "CONFLICT"
  | .unprocessable => "UNPROCESSABLE_ENTITY"
  | .internalError => "INTERNAL_ERROR"
  | .unavailable => "SERVICE_UNAVAILABLE"
  | .ok | .created | .accepted | .noContent => "ERROR"

/-- What is said unless something else is. -/
def message? : Kind → Option String
  | .ok | .noContent => none
  | .created => some "Recurso criado com sucesso"
  | .accepted => some "Requisicao aceita para processamento"
  | .badRequest => some "Requisicao invalida"
  | .unauthorized => some "Nao autorizado"
  | .forbidden => some "Acesso negado"
  | .notFound => some "Recurso nao encontrado"
  | .conflict => some "Conflito de recursos"
  | .unprocessable => some "Entidade nao processavel"
  | .internalError => some "Erro interno do servidor"
  | .unavailable => some "Servico indisponivel"

end Kind

def succeed (k : Kind) (data : Json) (message : Option String) : Reply :=
  ⟨k.status, true, data, message, [], []⟩

/-- A refusal with its problems; if none are given, the message itself is the problem. -/
def refuse (status : Nat) (code : String) (message : Option String) (problems : List Problem) :
    Reply :=
  ⟨status, false, .null, message,
    if problems.isEmpty then [⟨code, message, none, none⟩] else problems, []⟩

def fail (k : Kind) (message : Option String) (problems : List Problem) : Reply :=
  refuse k.status k.code message problems

/-- The message for a request whose fields were checked and found wrong. -/
def invalidMessage : String := "Erro de validacao"

/-- A refusal with just these problems, be there any or not. -/
def invalid (message : Option String) (problems : List Problem) : Reply :=
  ⟨Kind.badRequest.status, false, .null, message, problems, []⟩

/-- Something is missing; a resource that has a name is named. -/
def missing (message : Option String) (resource : String) : Reply :=
  fail .notFound message [⟨Kind.notFound.code, message, none,
    if resource = "" then none else some (.obj [("resource", .str resource)])⟩]

/-- The number of pages that hold `total` items, `size` to a page. There are none of pages
without room. -/
def pageCount (size total : Int) : Int :=
  if 0 < size then (total + size - 1) / size else 0

/-- One page of a list. -/
def page (items : Json) (total number size : Int) (message : Option String) : Reply :=
  let pages := pageCount size total
  { succeed .ok items message with
    notes := [("pagination", .obj [("page", .int number), ("per_page", .int size),
      ("total", .int total), ("total_pages", .int pages), ("has_next", .bool (number < pages)),
      ("has_prev", .bool (1 < number))])] }

/-- The reply with the time at which it was made. -/
def stamped (r : Reply) (now : Instant) : Reply :=
  { r with notes := Json.setField "timestamp" (.str (Time.zonedText now)) r.notes }

end Reply

end LogicTutor
