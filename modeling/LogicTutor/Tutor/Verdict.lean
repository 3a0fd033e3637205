import LogicTutor.Prover.Predictor
import LogicTutor.Prover.Report
import LogicTutor.Reply.Outcome

/-! The judgement on two texts: whether they are equivalent, with a truth table, and how far a
proof by the laws got. -/
namespace LogicTutor

/-- The method of proof that somebody asks for. -/
inductive ProofMethod where
  | automatic | direct | contrapositive | absurd
  /-- Any other name; nothing is known of it. -/
  | unsupported (name : String)
  deriving DecidableEq, Repr

namespace ProofMethod

def ofName : String → ProofMethod
  | "automatic" => .automatic
  | "direct" => .direct
  | "contrapositive" => .contrapositive
  | "absurd" => .absurd
  | name => .unsupported name

def name : ProofMethod → String
  | .automatic => "automatic"
  | .direct => "direct"
  | .contrapositive => "contrapositive"
  | .absurd => "absurd"
  | .unsupported name => name

end ProofMethod

structure Verdict where
  success : Bool
  equivalent : Bool
  method : String
  iterations : Nat
  guidedCount : Nat
  initial1 : String
  initial2 : String
  final1 : String
  final2 : String
  steps : List Step
  table : TruthTable
  message : String
  deriving Repr

namespace Verdict

variable {γ : Type} [Source γ]

def json (v : Verdict) : Json :=
  .obj [("success", .bool v.success), ("equivalent", .bool v.equivalent),
    ("method_used", .str v.method), ("iterations", Report.nat v.iterations),
    ("nn_predictions", Report.nat v.guidedCount),
    ("proposition1_initial", .str v.initial1), ("proposition2_initial", .str v.initial2),
    ("proposition1_final", .str v.final1), ("proposition2_final", .str v.final2),
    ("transformations", .arr (v.steps.map fun s => (Report.Entry.ofStep s).json)),
    ("truth_table", Report.table v.table), ("message", .str v.message)]

/-- A judgement that needs no proof. -/
def immediate (equivalent : Bool) (method message : String) (f g : Formula) (t : TruthTable) :
    Verdict :=
  ⟨true, equivalent, method, 0, 0, f.text, g.text, f.text, g.text, [], t, message⟩

/-- What a try to prove an equivalence came to; `run` is the one that tells, if there is one. -/
def ofAttempt (method : String) (success : Bool) (run : Option Run) (f g : Formula)
    (t : TruthTable) : Verdict :=
  ⟨success, true, method, (run.map Run.iterations).getD 0, (run.map Run.guidedCount).getD 0,
    f.text, g.text, (run.map fun r => r.final1.text).getD f.text,
    (run.map fun r => r.final2.text).getD g.text, (run.map Run.steps).getD [], t,
    if success then s!"Equivalencia provada com sucesso usando metodo {method}"
    else "Nao foi possivel provar equivalencia sintaticamente (semanticamente sao equivalentes)"⟩

/-- A run of another strategy; it does not tell how often advice was followed unless it
succeeded. -/
def discreet (r : Run) : Run := if r.success then r else { r with guidedCount := 0 }

/-- Tries to prove an equivalence that is known to hold. -/
def attempt (method : ProofMethod) (passes : Nat) (f g : Formula) (t : TruthTable)
    (s : Session γ) : Except Fault (Verdict × Session γ) := do
  let A := s.advisor
  match method with
  | .automatic =>
    let (c, s) ← Prover.inTurn A passes f g s
    match c.winner? with
    | some (w, r) => return (ofAttempt w.name true (some r) f g t, s)
    | none => return (ofAttempt "all_failed" false none f g t, s)
  | .direct =>
    let (r, s) ← Prover.guided A passes f g s
    return (ofAttempt method.name r.success (some r) f g t, s)
  | .contrapositive =>
    let (r, s) ← Prover.contrapositive A passes f g s
    return (ofAttempt method.name r.success (some (discreet r)) f g t, s)
  | .absurd =>
    let (r, s) ← Prover.absurdity A passes f g s
    return (ofAttempt method.name r.success (some (discreet r)) f g t, s)
  | .unsupported _ => .error .unsupported

/-- Judges two formulas, which are compared by their truth tables first. -/
def judge (method : ProofMethod) (passes : Nat) (f : Formula) (d : Glossary) (g : Formula)
    (e : Glossary) (s : Session γ) : Except Fault (Verdict × Session γ) := do
  let (t, v) ← TruthTable.make f d g e s.values
  let (same, v) ← Semantics.agree f d g e v
  let s := { s with values := v }
  if !same then
    return (immediate false "semantic_verification"
      "As proposicoes NAO sao equivalentes (tabelas verdade diferentes)" f g t, s)
  if f.same g then
    return (immediate true "syntactic_equality" "As proposicoes ja sao sintaticamente iguais"
      f g t, s)
  attempt method passes f g t s

def unreadable (number : Nat) (e : ParseError) : Problem :=
  .about "PARSE_ERROR" s!"Erro ao analisar proposicao {number}: {e.message}"
    s!"proposition{number}"

/-- Reads two texts and judges them. -/
def ofTexts (method : ProofMethod) (passes : Nat) (text1 text2 : String) (s : Session γ) :
    Except Fault (Outcome Verdict × Session γ) :=
  match Formula.read 0 text1 with
  | .error p => .ok (.failure (unreadable 1 p), s)
  | .ok (f, d) =>
    match Formula.read 1 text2 with
    | .error p => .ok (.failure (unreadable 2 p), s)
    | .ok (g, e) => do
      let (v, s) ← judge method passes f d g e s.forget
      return (.success v none, s)

end Verdict

end LogicTutor
