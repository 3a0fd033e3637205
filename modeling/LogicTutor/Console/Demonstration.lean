import LogicTutor.Prover.Predictor
import LogicTutor.Prover.Report
import LogicTutor.Prover.Transcript

/-! Proofs as the console shows them: the strategies in turn, each with its steps. -/
namespace LogicTutor.Console
open Transcript (line lines rule)

variable {γ : Type} [Source γ]

def stepLines (steps : List Step) : String :=
  lines (steps.map fun s => (Report.Entry.ofStep s).line 3)

/-- Tries to prove an equivalence, with all strategies or just the direct one. -/
def attempt (fallback : Bool) (passes : Nat) (f g : Formula) (s : Session γ) :
    Except Fault (Campaign × Session γ) :=
  if fallback then Prover.inTurn s.advisor passes f g s
  else do
    let (r, s) ← Prover.guided s.advisor passes f g s
    return (⟨r, none, none⟩, s)

/-- The steps of a success. -/
def fullSteps (steps : List Step) : String :=
  if steps.isEmpty then "" else line "Passos de transformação:" ++ stepLines steps

/-- The last twenty steps of a failure. -/
def lastSteps (steps : List Step) : String :=
  let omitted := steps.length - 20
  if steps.isEmpty then ""
  else line "Passos de transformação (incompleto):" ++ stepLines (steps.drop omitted) ++
    if 0 < omitted then line s!"  ... ({omitted} passos anteriores omitidos)" else ""

def counts (r : Run) : List String :=
  [s!"  Iterações: {r.iterations}", s!"  Predições NN usadas: {r.guidedCount}"]

def finals (r : Run) : List String :=
  [s!"  P1 final: {r.final1.text}", s!"  P2 final: {r.final2.text}"]

def heading (title : String) : List String := ["", rule '=' 50, title, rule '=' 50, ""]

def failure (r : Run) : String :=
  lastSteps r.steps ++
  lines ["", s!"  Não foi possível provar em {r.iterations} iterações",
    s!"  Estado final: {r.final1.text}"]

def directAccount (r : Run) : String :=
  lines ["", "Iniciando demonstração guiada por NN...", rule '-' 40, "",
    "[Estratégia 1] Transformação direta"] ++
  (if r.steps.isEmpty then "" else line "" ++ fullSteps r.steps) ++
  lines ["", rule '-' 40] ++
  if r.success then
    let guided := r.steps.countP fun s => s.guided = some true
    lines ("RESULTADO: EQUIVALENTES! (prova direta)" :: counts r ++
      [s!"  Detalhamento: {guided} guiadas por NN, {r.steps.length - guided} aleatórias"])
  else ""

def contrapositiveAccount (f g : Formula) (r : Run) : String :=
  line "Prova direta falhou. Tentando contrapositiva..." ++
  lines (heading "  [Estratégia 2] CONTRAPOSITIVA: ~P1 ≡ ~P2") ++
  lines ["Provando: ~P1 ≡ ~P2", s!"  ~P1 = {(Transcript.composed .not f none).text}",
    s!"  ~P2 = {(Transcript.composed .not g none).text}", ""] ++
  if r.success then
    fullSteps r.steps ++
    lines (["", rule '-' 50, "RESULTADO: EQUIVALENTES! (via contrapositiva)",
      "  Como ~P1 ≡ ~P2, concluímos que P1 ≡ P2"] ++ counts r ++ [rule '=' 50])
  else failure r

def absurdityAccount (f g : Formula) (r : Run) : String :=
  lines ["", "Contrapositiva falhou. Tentando prova por absurdo..."] ++
  lines (heading "  [Estratégia 3] ABSURDO: (P1 ^ ~P2) = F") ++
  lines ["Provando: (P1 ^ ~P2) = F",
    s!"  P1 ^ ~P2 = {(Transcript.composed .and f (some (Transcript.composed .not g none))).text}",
    "  Alvo: F", ""] ++
  if r.success then
    fullSteps r.steps ++
    lines (["", rule '-' 50, "RESULTADO: EQUIVALENTES! (via prova por absurdo)",
      "  (P1 ^ ~P2) = F prova que P1 implica P2",
      "  Combinado com verificação semântica, P1 ≡ P2"] ++ counts r ++ [rule '=' 50])
  else failure r

/-- Everything that is shown of a try. -/
def account (f g : Formula) (c : Campaign) : String :=
  let unproved := "RESULTADO: Não foi possível provar equivalência sintaticamente."
  directAccount c.direct ++
  if c.direct.success then ""
  else match c.contrapositive, c.absurdity with
    | none, _ =>
      lines ([unproved, s!"  Máximo de iterações atingido: {c.direct.iterations}"] ++
        finals c.direct)
    | some r, none => contrapositiveAccount f g r
    | some r, some a =>
      contrapositiveAccount f g r ++ absurdityAccount f g a ++
      if a.success then ""
      else lines (["", "Todas as estratégias de prova esgotadas.", unproved,
        s!"  Direta: {c.direct.iterations} iterações",
        s!"  Contrapositiva: {r.iterations} iterações",
        s!"  Absurdo: {a.iterations} iterações"] ++ finals c.direct)

/-- An example: two texts and what they are an example of. -/
structure Example where
  first : String
  second : String
  title : String
  deriving DecidableEq, Repr

/-- Shows the proofs of examples, one after the other. -/
def showExamples (passes : Nat) : List Example → Session γ → Except Fault (String × Session γ)
  | [], s => .ok ("", s)
  | e :: es, s => do
    let (shown, s) ← match Formula.parse 0 e.first, Formula.parse 1 e.second with
      | .ok f, .ok g => do
        let (c, s) ← attempt true passes f g s.forget
        pure (account f g c, s)
      | .error p, _ | .ok _, .error p => pure (line s!"  Erro de análise: {p.message}", s)
    let (rest, s) ← showExamples passes es s
    return (lines [rule '=' 50, s!"Exemplo: {e.title}", s!"  P1: {e.first}", s!"  P2: {e.second}"] ++
      shown ++ line "" ++ rest, s)

def examples : List Example :=
  [⟨"~~p", "p", "Dupla Negação (1 passo)"⟩,
   ⟨"p v ~p", "T", "Complemento - Tautologia (1-2 passos)"⟩,
   ⟨"p ^ ~p", "F", "Complemento - Contradição (1-2 passos)"⟩,
   ⟨"~(p ^ q)", "~p v ~q", "Lei de De Morgan (1-2 passos)"⟩,
   ⟨"p -> q", "~p v q", "Eliminação da Implicação (1-2 passos)"⟩,
   ⟨"~~p ^ q", "p ^ q", "Dupla Negação em contexto (2 passos)"⟩,
   ⟨"~(~p v ~q)", "p ^ q", "De Morgan + Dupla Negação (3-4 passos)"⟩,
   ⟨"~~p v ~~q", "p v q", "Dupla Negação em ambos lados (2-3 passos)"⟩,
   ⟨"(p v ~p) ^ q", "q", "Simplificação de tautologia (2-3 passos)"⟩,
   ⟨"~~(p ^ q) v r", "(p ^ q) v r", "Dupla negação aninhada (2-3 passos)"⟩,
   ⟨"~(p -> q)", "p ^ ~q", "Negação da implicação (3-4 passos)"⟩,
   ⟨"(p ^ q) v (p ^ ~q)", "p", "Fatoração (3-5 passos)"⟩]

def demonstration (s : Session γ) : Except Fault (String × Session γ) := do
  let (shown, s) ← showExamples 100 examples s
  return (lines ["Executando demonstração com exemplos de múltiplos passos...", ""] ++ shown, s)

end LogicTutor.Console
