import LogicTutor.Campus.Store

/-! Commands that set up a campus: the first administrators and the usual areas. -/
namespace LogicTutor.Setup

/-- An area that is set up with its subareas, each in its place. -/
structure Plan where
  name : String
  description : String
  color : String
  subareas : List String
  deriving Repr

def plans : List Plan :=
  [⟨"Algebra", "Estudo de estruturas algebricas e operacoes", "#6366f1",
     ["Algebra Linear", "Algebra Abstrata", "Polinomios", "Equacoes e Inequacoes"]⟩,
   ⟨"Geometria", "Estudo das formas, tamanhos e propriedades do espaco", "#22c55e",
     ["Geometria Plana", "Geometria Espacial", "Geometria Analitica", "Geometria Nao-Euclidiana"]⟩,
   ⟨"Calculo", "Estudo de limites, derivadas e integrais", "#f59e0b",
     ["Limites", "Derivadas", "Integrais", "Calculo Vetorial", "Equacoes Diferenciais"]⟩,
   ⟨"Estatistica", "Coleta, analise e interpretacao de dados", "#3b82f6",
     ["Estatistica Descritiva", "Probabilidade", "Inferencia Estatistica", "Distribuicoes"]⟩,
   ⟨"Logica Matematica", "Estudo da estrutura formal do raciocinio", "#8b5cf6",
     ["Logica Proposicional", "Logica de Predicados", "Teoria dos Conjuntos", "Demonstracoes"]⟩,
   ⟨"Aritmetica", "Estudo dos numeros e operacoes basicas", "#ef4444",
     ["Numeros Inteiros", "Numeros Racionais", "Numeros Reais", "Divisibilidade",
      "Numeros Primos"]⟩,
   ⟨"Trigonometria", "Estudo das relacoes entre lados e angulos de triangulos", "#14b8a6",
     ["Funcoes Trigonometricas", "Identidades Trigonometricas", "Equacoes Trigonometricas",
      "Trigonometria no Triangulo"]⟩,
   ⟨"Analise Combinatoria", "Estudo de contagem e arranjos", "#ec4899",
     ["Principio Fundamental da Contagem", "Permutacoes", "Combinacoes", "Arranjos"]⟩]

inductive Command where
  /-- Makes the usual administrator. -/
  | firstAdmin
  /-- Makes an administrator; what is not told is asked for. -/
  | newAdmin (name email password : Option String)
  | areas
  deriving Repr

/-- A name and its value in one word. -/
def pair? (word : String) : Option (String × String) :=
  match word.splitOn "=" with
  | key :: value :: more => some (key, "=".intercalate (value :: more))
  | _ => none

/-- The options of a command, each with its value; none if something else is among them. -/
def options? : List String → Option (List (String × String))
  | [] => some []
  | [word] => (pair? word).map ([·])
  | word :: value :: rest =>
    match pair? word with
    | some option => (options? (value :: rest)).map (option :: ·)
    | none => (options? rest).map ((word, value) :: ·)

def Command.ofArgs? : List String → Option Command
  | ["seed-admin"] => some .firstAdmin
  | ["seed-math-areas"] => some .areas
  | "create-admin" :: rest => do
      let given ← options? rest
      let last := fun key => (given.reverse.find? (·.1 = key)).map (·.2)
      return .newAdmin (last "--name") (last "--email") (last "--password")
  | _ => none

/-- What a command showed, and its exit code. -/
structure Told where
  code : Nat
  output : String
  deriving DecidableEq, Repr

/-- Asks until something is typed. The answer is shown unless it is `secret`. Gives what was shown,
and the answer with the lines that are left, if there was one. -/
def ask (prompt : String) (secret : Bool) :
    List String → String × Option (String × List String)
  | [] => (prompt, none)
  | line :: rest =>
    let shown := prompt ++ (if secret then "" else line) ++ "\n"
    if line.isEmpty then
      let (more, answer) := ask prompt secret rest
      (shown ++ more, answer)
    else (shown, some (line, rest))

/-- Asks for a password twice, until both times it is the same; `rounds` bounds the tries. -/
def askPassword : Nat → List String → String × Option (String × List String)
  | 0, _ => ("", none)
  | rounds + 1, lines =>
    match ask "Password: " true lines with
    | (shown, none) => (shown, none)
    | (shown, some (password, lines)) =>
      match ask "Repeat for confirmation: " true lines with
      | (again, none) => (shown ++ again, none)
      | (again, some (second, lines)) =>
        if password = second then (shown ++ again, some (password, lines))
        else
          let (more, answer) := askPassword rounds lines
          (shown ++ again ++ "Error: The two entered values do not match.\n" ++ more, answer)

/-- What is told, or else asked for. -/
def tellOrAsk (told : Option String) (asked : List String → String × Option (String × List String))
    (lines : List String) : String × Option (String × List String) :=
  match told with
  | some s => ("", some (s, lines))
  | none => asked lines

def firstEmail : String := "admin@email.com"

/-- A new administrator, if the mail address is free. -/
def addAdmin (c : Campus) (name email password : String) : Option Campus :=
  if c.admins.any fun a => a.email = email then none
  else ((c.spend 1).addAdmin ⟨c.nextId, name, email, some password, some true⟩).toOption

/-- Sets up the subareas of an area that are missing, each in its place. -/
def addSubareas (now : Instant) (areaId : Id) : Nat → List String → Campus × Nat → Campus × Nat
  | _, [], acc => acc
  | place, name :: rest, (c, made) =>
    if c.subareas.any fun s => s.areaId = areaId && s.name = name then
      addSubareas now areaId (place + 1) rest (c, made)
    else
      match (c.spend 1).addSubarea
          ⟨c.nextId, areaId, name, none, some place, some true, now, now⟩ with
      | .ok c' => addSubareas now areaId (place + 1) rest (c', made + 1)
      | .error _ => addSubareas now areaId (place + 1) rest (c, made)

/-- What setting up areas has come to so far. -/
structure Progress where
  campus : Campus
  areas : Nat
  subareas : Nat
  output : String

/-- Sets up an area, unless there is one of that name, and its missing subareas. -/
def addPlan (now : Instant) (p : Progress) (planned : Plan × Nat) : Progress :=
  let (plan, place) := planned
  let subareas := fun (p : Progress) (id : Id) =>
    let (c, made) := addSubareas now id 1 plan.subareas (p.campus, p.subareas)
    { p with campus := c, subareas := made }
  match p.campus.areas.find? fun a => a.name = plan.name with
  | some a => subareas p a.id
  | none =>
    let id := p.campus.nextId
    match (p.campus.spend 1).addArea ⟨id, plan.name, some plan.description, none, some plan.color,
        some place, some true, now, now⟩ with
    | .ok c => subareas ⟨c, p.areas + 1, p.subareas,
        p.output ++ s!"Created area: {plan.name}\n"⟩ id
    | .error _ => p

def addAreas (c : Campus) (now : Instant) : Told × Campus :=
  let p := (plans.zipIdx 1).foldl (addPlan now) ⟨c, 0, 0, ""⟩
  (⟨0, p.output ++
    s!"Seeding complete: {p.areas} areas, {p.subareas} subareas created.\n"⟩, p.campus)

/-- Runs a command, with what is typed when it asks. If the typing ends too early, the command
fails. -/
def Command.run (c : Campus) (now : Instant) (lines : List String) : Command → Told × Campus
  | .firstAdmin =>
    match Setup.addAdmin c "Administrator" firstEmail "admin" with
    | some c' => (⟨0, s!"Default admin created: {firstEmail} / admin\n"⟩, c')
    | none => (⟨0, s!"Admin {firstEmail} already exists.\n"⟩, c)
  | .newAdmin name email password =>
    match tellOrAsk name (ask "Admin name: " false) lines with
    | (shown, none) => (⟨1, shown⟩, c)
    | (shown₁, some (name, lines)) =>
      match tellOrAsk email (ask "Email: " false) lines with
      | (shown₂, none) => (⟨1, shown₁ ++ shown₂⟩, c)
      | (shown₂, some (email, lines)) =>
        match tellOrAsk password (askPassword (lines.length + 1)) lines with
        | (shown₃, none) => (⟨1, shown₁ ++ shown₂ ++ shown₃⟩, c)
        | (shown₃, some (password, _)) =>
          let shown := shown₁ ++ shown₂ ++ shown₃
          match Setup.addAdmin c name email password with
          | some c' => (⟨0, shown ++ s!"Admin created: {email}\n"⟩, c')
          | none => (⟨0, shown ++ s!"Error: Admin with email {email} already exists.\n"⟩, c)
  | .areas => addAreas c now

end LogicTutor.Setup
