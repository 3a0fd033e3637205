import LogicTutor.Campus.Fields
import LogicTutor.Campus.Store

/-! Signing in and up, and the students' own profiles. -/
namespace LogicTutor

/-- A password is tried on a secret. -/
def Secret.opens (secret : Secret) (password : String) : Bool := secret = some password

namespace Accounts

def badCredentials : Problem := .plain "INVALID_CREDENTIALS" "Credenciais invalidas"

def inactive : Problem := .plain "ACCOUNT_INACTIVE" "Conta inativa"

def noStudent : Problem := .plain "NOT_FOUND" "Estudante nao encontrado"

def welcome : String := "Login realizado com sucesso"

/-- Passwords do not agree, in the field that repeats the new one. -/
def mismatch : Problem := .about "PASSWORD_MISMATCH" "As senhas nao conferem" "confirm_password"

variable (c : Campus) (now : Instant)

/-- An administrator signs in. -/
def adminSignIn (email password : Option String) : Deed Admin :=
  match c.admins.find? fun a => some a.email = email, password with
  | none, _ => .refused c badCredentials
  | some _, none => .broken c .noPassword
  | some a, some p =>
    if !a.password.opens p then .refused c badCredentials
    else if a.active ≠ some true then .refused c inactive
    else .done c a welcome

/-- A student signs in, which is kept as the time of last access. -/
def signIn (email password : Option String) : Deed Student :=
  match c.students.find? fun s => some s.email = email, password with
  | none, _ => .refused c badCredentials
  | some _, none => .broken c .noPassword
  | some s, some p =>
    if !s.password.opens p then .refused c badCredentials
    else if s.active ≠ some true then .refused c inactive
    else
      let s := { s with lastAccess := some now }
      .attempt c welcome ((c.saveStudent s).map fun c => (s, c))

/-- What somebody who signs up tells. -/
structure SignUp where
  name : Option String
  email : Option String
  password : Option String
  repeated : Option String
  registration : Option String
  accessCode : Option String
  deriving Repr

def SignUp.ofFields (fs : Fields) : SignUp :=
  ⟨fs.text? "name", fs.text? "email", fs.text? "password", fs.text? "confirm_password",
    fs.text? "registration_number", fs.text? "access_code"⟩

/-- A new student with an active enrollment in a class. Two identifiers are drawn; if the student
cannot be kept, one is. -/
def enroll (name email : Option String) (password : String) (registration : Option String)
    (classId : Id) : Except (Failure × Campus) (Student × Campus) :=
  let student := do
    let s : Student := ⟨c.nextId, ← Campus.present name, ← Campus.present email, some password,
      registration, now, none, some true, classId⟩
    return (s, ← c.addStudent s)
  match student with
  | .error f => .error (f, c.spend 1)
  | .ok (s, c') =>
    let c' := c'.spend 1
    match c'.addEnrollment ⟨c'.nextId, s.id, classId, now, .active⟩ with
    | .error f => .error (f, c.spend 2)
    | .ok c'' => .ok (s, c''.spend 1)

/-- A student signs up for the class with the access code. -/
def signUp (d : SignUp) : Deed Student :=
  if d.password ≠ d.repeated then .refused c mismatch
  else if c.students.any fun s => some s.email = d.email then
    .refused c (.about "EMAIL_EXISTS" "Este email ja esta cadastrado" "email")
  else
    match c.classes.find? fun g => some g.accessCode = d.accessCode && g.active = some true with
    | none => .refused c (.about "INVALID_ACCESS_CODE" "Codigo de acesso invalido" "access_code")
    | some g =>
      match d.password with
      | none => .broken c .noPassword
      | some password =>
        match enroll c now d.name d.email password d.registration g.id with
        | .ok (s, c') => .done c' s "Cadastro realizado com sucesso"
        | .error (f, c') => .broken c' f

def profile (student : Id) : Deed Student := .found c noStudent (c.student? student)

/-- A student changes name or mail address; what is empty stays. -/
def changeProfile (student : Id) (name email : Option String) : Deed Student :=
  match c.student? student with
  | none => .refused c noStudent
  | some s =>
    if email.any fun e => e ≠ s.email && c.students.any fun t => t.email = e && t.id ≠ student then
      .refused c (.about "EMAIL_IN_USE" "Este email ja esta em uso" "email")
    else
      let s := { s with name := name.getD s.name, email := email.getD s.email }
      .attempt c "Perfil atualizado com sucesso" ((c.saveStudent s).map fun c => (s, c))

/-- A student changes the password, which takes the current one. -/
def changePassword (student : Id) (current new repeated : Option String) : Deed Unit :=
  if new ≠ repeated then .refused c mismatch
  else
    match c.student? student, current, new with
    | none, _, _ => .refused c noStudent
    | some _, none, _ => .broken c .noPassword
    | some s, some current, new =>
      if !s.password.opens current then
        .refused c (.about "INVALID_PASSWORD" "Senha atual incorreta" "current_password")
      else
        match new with
        | none => .broken c .noPassword
        | some new => .attempt c "Senha alterada com sucesso"
            ((c.saveStudent { s with password := some new }).map fun c => ((), c))

end Accounts

end LogicTutor
