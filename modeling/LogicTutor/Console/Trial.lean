import LogicTutor.Console.Demonstration
import LogicTutor.Semantics.Equivalence

/-! Trials: pairs of texts of which it is known whether they are equivalent. -/
namespace LogicTutor.Console
open Transcript (line lines rule)

variable {γ : Type} [Source γ]

/-- How a trial ended. A warning means that the equivalence holds and no proof was found. -/
inductive Mark where
  | pass | warn | fail
  deriving DecidableEq, Repr

def Mark.name : Mark → String
  | .pass => "pass"
  | .warn => "warn"
  | .fail => "fail"

/-- The first ten steps, without their results. -/
def firstSteps (steps : List Step) : String :=
  if steps.isEmpty then ""
  else line "  Passos:" ++
    lines ((steps.take 10).map fun s =>
      s!"    {s.iteration}. {Transcript.marker s.guided} {s.law.name} em P{s.side}") ++
    if 10 < steps.length then line s!"    ... e mais {steps.length - 10}" else ""

def directVerdict (showSteps : Bool) (r : Run) : String :=
  let n := r.steps.length
  (if r.iterations = 0 then line "  [OK] Já são iguais (0 passos)"
    else
      let unit := if r.iterations ≤ 2 then "passo(s)" else "passos"
      line s!"  [OK] {r.iterations} {unit}, {n} transformação(ões) (NN: {r.guidedCount})") ++
  if showSteps then firstSteps r.steps else ""

/-- The mark for a proof that should exist, and what is said about it. -/
def proofMark (showSteps : Bool) (c : Campaign) : Mark × String :=
  match c.winner? with
  | some (.direct, r) => (.pass, directVerdict showSteps r)
  | some (.contrapositive, r) =>
    (.pass, line s!"  [OK] Contrapositiva: ~P1≡~P2 ({r.iterations} passos), NN: {r.guidedCount}")
  | some (.absurdity, r) =>
    (.pass, line s!"  [OK] Absurdo: (P1^~P2)=F ({r.iterations} passos), NN: {r.guidedCount}")
  | none =>
    let passes := fun (r : Option Run) => (r.map Run.iterations).getD 0
    (.warn, lines ["  [AVISO] Semanticamente equivalente mas prova não encontrada",
      s!"          Direta: {c.direct.iterations}, Contrapositiva: {passes c.contrapositive}, Absurdo: {passes c.absurdity} iterações",
      s!"          P1 final: {c.direct.final1.text}",
      s!"          P2 final: {c.direct.final2.text}"])

/-- The mark for two formulas. -/
def formulaMark (expected showSteps : Bool) (passes : Nat) (f : Formula) (d : Glossary)
    (g : Formula) (e : Glossary) (s : Session γ) :
    Except Fault ((Mark × String) × Session γ) := do
  let (same, v) ← Semantics.agreeShort f d g e s.values
  let s := { s with values := v }
  match expected, same with
  | true, false =>
    return ((.fail, line "  [FALHA] Esperado equivalente mas tabelas verdade diferem!"), s)
  | true, true =>
    let (c, s) ← Prover.inTurn s.advisor passes f g s
    return (proofMark showSteps c, s)
  | false, true =>
    return ((.fail, line "  [INESPERADO] Estas SÃO semanticamente equivalentes!"), s)
  | false, false =>
    return ((.pass, line "  [OK] Corretamente identificado como NÃO equivalente"), s)

/-- Carries out a trial. -/
def trial (expected showSteps : Bool) (passes : Nat) (e : Example) (s : Session γ) :
    Except Fault (Mark × String × Session γ) := do
  let ((mark, said), s) ← match Formula.read 0 e.first, Formula.read 1 e.second with
    | .ok (f, d), .ok (g, d') => formulaMark expected showSteps passes f d g d' s.forget
    | .error p, _ | .ok _, .error p =>
      pure ((.fail, line s!"  [ERRO] Erro de análise: {p.message}"), s)
  return (mark, lines [s!"Teste: {e.title}", s!"  P1: {e.first}", s!"  P2: {e.second}"] ++ said ++
    line "", s)

def trials (expected : Bool) :
    List Example → Session γ → Except Fault (List Mark × String × Session γ)
  | [], s => .ok ([], "", s)
  | e :: es, s => do
    let (mark, said, s) ← trial expected false 150 e s
    let (marks, rest, s) ← trials expected es s
    return (mark :: marks, said ++ rest, s)

/-- Pairs that are equivalent, the harder ones last. -/
def equivalentPairs : List Example :=
  [⟨"p v ~p", "T", "Lei do Complemento - Tautologia"⟩,
   ⟨"p ^ ~p", "F", "Lei do Complemento - Contradição"⟩,
   ⟨"p v T", "T", "Dominação (OU)"⟩,
   ⟨"p ^ F", "F", "Dominação (E)"⟩,
   ⟨"p v F", "p", "Identidade (OU)"⟩,
   ⟨"p ^ T", "p", "Identidade (E)"⟩,
   ⟨"~T", "F", "Negação de Verdadeiro"⟩,
   ⟨"~F", "T", "Negação de Falso"⟩,
   ⟨"T -> p", "p", "Implicação: T -> p = p"⟩,
   ⟨"F -> p", "T", "Implicação: F -> p = T"⟩,
   ⟨"p -> T", "T", "Implicação: p -> T = T"⟩,
   ⟨"~~p", "p", "Dupla Negação"⟩,
   ⟨"p ^ p", "p", "Idempotência (E)"⟩,
   ⟨"p v p", "p", "Idempotência (OU)"⟩,
   ⟨"p ^ q", "q ^ p", "Comutatividade (E)"⟩,
   ⟨"p v q", "q v p", "Comutatividade (OU)"⟩,
   ⟨"~(p ^ q)", "~p v ~q", "De Morgan (E)"⟩,
   ⟨"~(p v q)", "~p ^ ~q", "De Morgan (OU)"⟩,
   ⟨"p -> q", "~p v q", "Definição da Implicação"⟩,
   ⟨"~~p ^ q", "p ^ q", "Dupla Negação em E"⟩,
   ⟨"p v ~~q", "p v q", "Dupla Negação em OU"⟩,
   ⟨"~~(p ^ q)", "p ^ q", "Dupla Negação de composto"⟩,
   ⟨"p ^ (p v q)", "p", "Absorção (E-OU)"⟩,
   ⟨"p v (p ^ q)", "p", "Absorção (OU-E)"⟩,
   ⟨"(p v q) ^ p", "p", "Absorção (invertida)"⟩,
   ⟨"p -> q", "~q -> ~p", "Contraposição"⟩,
   ⟨"(p v ~p) ^ q", "T ^ q", "Tautologia em E (passo 1)"⟩,
   ⟨"~~p ^ ~~q", "p ^ q", "Dupla Negação ambos lados"⟩,
   ⟨"~~p v ~~q", "p v q", "Dupla Negação ambos lados (OU)"⟩,
   ⟨"~(~p ^ ~q)", "p v q", "De Morgan depois Dupla Neg"⟩,
   ⟨"~(~p v ~q)", "p ^ q", "De Morgan depois Dupla Neg (E)"⟩,
   ⟨"~(p -> q)", "p ^ ~q", "Negação da Implicação"⟩,
   ⟨"(p v ~p) ^ q", "q", "Simplificação de tautologia"⟩,
   ⟨"p v (q ^ ~q)", "p", "Simplificação de contradição"⟩,
   ⟨"T ^ (p v q)", "p v q", "Identidade com composto"⟩,
   ⟨"F v (p ^ q)", "p ^ q", "Identidade com composto (OU)"⟩,
   ⟨"~~(p v q) ^ r", "(p v q) ^ r", "Dupla negação aninhada em E"⟩,
   ⟨"~(p ^ q) v r", "(~p v ~q) v r", "De Morgan dentro de OU"⟩,
   ⟨"(~~p ^ q) v r", "(p ^ q) v r", "Dupla neg em expr complexa"⟩,
   ⟨"(p ^ q) v (p ^ ~q)", "p", "Fatoração de p"⟩,
   ⟨"(p v q) ^ (p v ~q)", "p", "Fatoração de p (forma OU)"⟩,
   ⟨"~(p -> q) v r", "(p ^ ~q) v r", "Neg implicação dentro de OU"⟩,
   ⟨"(p -> q) ^ (q -> r)", "(~p v q) ^ (~q v r)", "Duas implicações"⟩,
   ⟨"~~p -> ~~q", "p -> q", "Dupla negação em implicação"⟩,
   ⟨"~(~p -> ~q)", "~p ^ q", "Neg da forma contrapositiva"⟩,
   ⟨"(p v ~p) -> q", "q", "Antecedente tautologia"⟩,
   ⟨"p -> (q v ~q)", "T", "Consequente tautologia"⟩,
   ⟨"(p ^ ~p) -> q", "T", "Antecedente contradição (ex falso)"⟩,
   ⟨"~~(p -> q)", "p -> q", "Dupla neg de implicação"⟩,
   ⟨"~(p ^ q) ^ ~(~p v ~q)", "F", "Contradição via De Morgan"⟩,
   ⟨"(p ^ q) v (~p ^ q) v (p ^ ~q) v (~p ^ ~q)", "T", "Tabela verdade completa"⟩,
   ⟨"~(~~p ^ ~~q)", "~p v ~q", "Processamento triplo"⟩,
   ⟨"((p -> q) ^ p) -> q", "T", "Modus Ponens é tautologia"⟩,
   ⟨"(p -> q) ^ (~q) -> ~p", "T", "Modus Tollens é tautologia"⟩,
   ⟨"(p -> (q -> r)) -> ((p -> q) -> (p -> r))", "T", "Axioma da distribuição"⟩]

def differentPairs : List Example :=
  [⟨"p -> q", "q -> p", "Implicação NÃO é Comutativa"⟩,
   ⟨"p ^ q", "p v q", "E vs OU"⟩,
   ⟨"p -> q", "p ^ q", "Implicação vs Conjunção"⟩,
   ⟨"p -> q", "~p ^ q", "Implicação vs Forma Incorreta"⟩,
   ⟨"(p -> q) -> r", "p -> (q -> r)", "Implicação NÃO é Associativa"⟩,
   ⟨"p", "T", "Variável vs Verdadeiro"⟩,
   ⟨"p", "F", "Variável vs Falso"⟩,
   ⟨"p ^ q", "T", "Conjunção vs Verdadeiro"⟩,
   ⟨"p v q", "F", "Disjunção vs Falso"⟩]

/-- All trials with a summary. -/
def examination (s : Session γ) : Except Fault (String × Session γ) := do
  let (marks1, said1, s) ← trials true equivalentPairs s
  let (marks2, said2, s) ← trials false differentPairs s
  let marks := marks1 ++ marks2
  return (
    lines [rule '=' 60, "  TESTES ABRANGENTES DE EQUIVALÊNCIA (MÚLTIPLOS PASSOS)", rule '=' 60, "",
      "PARTE 1: Testando proposições EQUIVALENTES (provas de múltiplos passos)", rule '-' 60, ""] ++
    said1 ++
    lines ["", "PARTE 2: Testando proposições NÃO EQUIVALENTES", rule '-' 60, ""] ++
    said2 ++
    lines ["", rule '=' 60, "  RESUMO DOS TESTES", s!"  Total de testes: {marks.length}",
      s!"  Aprovados:       {marks.count .pass}",
      s!"  Avisos:          {marks.count .warn} (semanticamente equivalentes mas prova não encontrada)",
      s!"  Reprovados:      {marks.count .fail}", rule '=' 60], s)

end LogicTutor.Console
