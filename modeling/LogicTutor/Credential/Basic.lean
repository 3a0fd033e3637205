import LogicTutor.Decimal.Shortest
import LogicTutor.Digest.Sha256
import LogicTutor.Json.Reader
import LogicTutor.Json.Writer
import LogicTutor.Settings
import LogicTutor.Text.Base64
import LogicTutor.Text.Digit
import LogicTutor.Time.Calendar

/-! Signed credentials: a header, a set of claims and a signature over both, in three parts joined
by points. -/
namespace LogicTutor

/-- The claims of a credential, in their order. -/
abbrev Claims := List (String × Json)

namespace Credential

/-- Why a credential is refused. -/
inductive Refusal where
  /-- The text is no credential, or a claim of it cannot be read. -/
  | malformed
  | algorithm
  | signature
  | issuedAt
  /-- It is not valid yet. -/
  | premature
  | expired
  | audience
  /-- A time is given by something that is no number at all. -/
  | untyped
  | overflow
  deriving DecidableEq, Repr

/-- What a credential is good for. -/
inductive Use where
  | access
  | refresh
  deriving DecidableEq, Repr

namespace Use

def name : Use → String
  | access => "access"
  | refresh => "refresh"

/-- How long it is valid, unless something else is asked for. -/
def seconds : Use → Nat
  | access => Settings.accessSeconds
  | refresh => Settings.refreshSeconds

end Use

def bytes (s : String) : Digest.Bytes := s.toUTF8.toList

def encodeText (s : String) : String := String.ofList (Text.Base64.encode (bytes s))

def sign (message : String) : Digest.Bytes := Digest.keyed (bytes Settings.secret) (bytes message)

def header : Json := .obj [("typ", .str "JWT"), ("alg", .str Settings.algorithm)]

/-- The credential that carries the claims. -/
def stamp (claims : Claims) : String :=
  let body := encodeText (header.write Decimal.floatText) ++ "." ++
    encodeText ((Json.obj claims).write Decimal.floatText)
  body ++ "." ++ String.ofList (Text.Base64.encode (sign body))

/-- The claims of a credential issued at `now`; further claims may replace the common ones. -/
def claims (use : Use) (now : Instant) (seconds : Int) (subject : Json) (more : Claims) : Claims :=
  more.foldl (fun cs c => Json.setField c.1 c.2 cs)
    [("sub", subject), ("iat", .int now), ("exp", .int (now + seconds)), ("type", .str use.name)]

def issue (use : Use) (now : Instant) (subject : String) (more : Claims) : String :=
  stamp (claims use now use.seconds (.str subject) more)

/-- The object that the bytes of a part spell. -/
def object? (part : Digest.Bytes) : Option Claims := do
  match Json.parse? (← String.fromUTF8? ⟨part.toArray⟩) with
  | some (.obj fields) => some fields
  | _ => none

/-- A time in whole seconds, given by a number or by the text of one. -/
def time (bad : Refusal) : Json → Except Refusal Int
  | .int n => .ok n
  | .bool b => .ok (if b then 1 else 0)
  | .str s => match Text.whole? s with
    | some n => .ok n
    | none => .error bad
  | .real x => match Decimal.ofFloat? x with
    | some q => .ok (q.num.tdiv q.den)
    | none => .error (if x.isNaN then bad else .overflow)
  | _ => .error .untyped

def timeClaim (bad : Refusal) (cs : Claims) (key : String) : Except Refusal (Option Int) :=
  match Json.field? cs key with
  | none => .ok none
  | some v => (time bad v).map some

/-- The claims hold at the time `now`, checked in a fixed order. -/
def check (cs : Claims) (now : Instant) : Except Refusal Unit := do
  let _ ← timeClaim .issuedAt cs "iat"
  if (← timeClaim .malformed cs "nbf").any (now < ·) then throw .premature
  if (← timeClaim .malformed cs "exp").any (· < now) then throw .expired
  if (Json.field? cs "aud").any Json.isTruthy then throw .audience

/-- The parts of the text before, between and behind the first and the last point. -/
def parts? (s : String) : Option (Digest.Bytes × Digest.Bytes × Digest.Bytes) :=
  let point : UInt8 := 46
  match (bytes s).reverse.span (· ≠ point) with
  | (last, _ :: front) =>
    match front.reverse.span (· ≠ point) with
    | (first, _ :: middle) => some (first, middle, last.reverse)
    | _ => none
  | _ => none

def orMalformed {α : Type} : Option α → Except Refusal α
  | some a => .ok a
  | none => .error .malformed

/-- The claims of a credential that is signed and holds at the time `now`. -/
def read (s : String) (now : Instant) : Except Refusal Claims := do
  let (first, middle, last) ← orMalformed (parts? s)
  let head ← orMalformed ((Text.Base64.decode? first).bind object?)
  let body ← orMalformed (Text.Base64.decode? middle)
  let signature ← orMalformed (Text.Base64.decode? last)
  match Json.field? head "alg" with
  | some (.str a) => if a ≠ Settings.algorithm then throw .algorithm
  | _ => throw .algorithm
  if signature ≠ Digest.keyed (bytes Settings.secret) (first ++ 46 :: middle) then throw .signature
  let cs ← orMalformed (object? body)
  check cs now
  return cs

/-- The claims, if the credential is good for that use. A time that is no number is an error even
here. -/
def verify (use : String) (s : String) (now : Instant) : Except Refusal (Option Claims) :=
  match read s now with
  | .ok cs => match Json.field? cs "type" with
    | some (.str t) => .ok (if t = use then some cs else none)
    | _ => .ok none
  | .error .untyped => .error .untyped
  | .error .overflow => .error .overflow
  | .error _ => .ok none

/-- Whom an access credential was issued to. -/
def subject (s : String) (now : Instant) : Except Refusal Json := do
  match ← verify Use.access.name s now with
  | some cs => return (Json.field? cs "sub").getD .null
  | none => return .null

end Credential

end LogicTutor
