import LogicTutor.Console.Trial
import LogicTutor.Text.Blank

/-! The dialogue with somebody at the console. At each stage a question is open; a typed line
answers it and leads to the next stage, and the end of the lines ends the dialogue. -/
namespace LogicTutor.Console
open Transcript (line lines rule)

/-- A typed line without white space around it. -/
def answerOf (typed : String) : String := Text.trim typed

/-- A typed choice; only ASCII letters occur in choices. -/
def choiceOf (typed : String) : String := (answerOf typed).map Char.toLower

def farewell : String := lines ["", "Até logo!"]

def isQuit (choice : String) : Bool := ["quit", "exit", "q", "sair", "s"].contains choice

/-- The question that is open. -/
inductive Stage where
  | menu
  /-- For the first formula. -/
  | first
  /-- For the second formula. -/
  | second (f : Formula) (names : Glossary)
  /-- What to do next, after a try to prove an equivalence. -/
  | afterwards (f g : Formula) (proof : Option Run)
  | finished
  deriving DecidableEq, Repr

structure Dialogue (γ : Type) where
  stage : Stage
  /-- Whether the menu comes back when the questions for formulas end. -/
  fromMenu : Bool
  session : Session γ

namespace Dialogue

variable {γ : Type} [Source γ]

/-- What is shown, and how the dialogue goes on. -/
abbrev Turn (γ : Type) := String × Dialogue γ

/-- Shows something before a turn. -/
def after (shown : String) (t : Turn γ) : Turn γ := (shown ++ t.1, t.2)

def menu : String :=
  lines ["", "Escolha um modo:", "  [1] Modo interativo - Digite proposições manualmente",
    "  [2] Modo demonstração - Exemplos simples com saída passo a passo",
    "  [3] Modo teste - Testes abrangentes (equivalências complexas)", "  [s] Sair", ""] ++
  "Escolha (1/2/3/s): "

def askMenu (d : Dialogue γ) : Turn γ := (menu, { d with stage := .menu, fromMenu := true })

def askFirst (d : Dialogue γ) : Turn γ :=
  (lines [rule '-' 60, ""] ++ "Digite a primeira proposição (ou 'sair' para encerrar): ",
    { d with stage := .first })

def askSecond (f : Formula) (names : Glossary) (d : Dialogue γ) : Turn γ :=
  ("Digite a segunda proposição: ", { d with stage := .second f names })

/-- Ends the questions for formulas. -/
def leave (d : Dialogue γ) : Turn γ :=
  after farewell (if d.fromMenu then d.askMenu else ("", { d with stage := .finished }))

/-- What is shown of an optimisation. -/
def optimisationAccount (o : Optimisation) : String :=
  lines ["", rule '=' 60, "  OTIMIZAÇÃO DA PROVA", rule '=' 60,
    "Buscando uma prova mais curta...", ""] ++ Transcript.optimisation o ++
  match o, o.best? with
  | .searched before _ _ _, some a =>
    lines ["", rule '=' 60, "✓ PROVA OTIMIZADA ENCONTRADA!", s!"  Original: {before} passos",
      s!"  Otimizada: {a.totalSteps before} passos",
      s!"  Economia: {a.savings before} passos", rule '=' 60] ++
    if a.run.steps.isEmpty then ""
    else lines ["", "Passos de transformação otimizados:"] ++ stepLines a.run.steps
  | _, _ =>
    lines ["", rule '=' 60, "Nenhuma prova mais curta encontrada. A original já é ótima.",
      rule '=' 60]

/-- Tries to prove an equivalence and asks what to do next. -/
def prove (f g : Formula) (d : Dialogue γ) : Except Fault (Turn γ) := do
  let (c, s) ← attempt true 50 f g d.session
  let proof := c.winner?.map (·.2)
  let question :=
    if 2 < ((proof.map Run.steps).getD []).length then
      lines ["", "Opções: [o]timizar | [r]epetir | [n]ovas proposições | [s]air"] ++
        "Escolha (o/r/n/s): "
    else lines ["", "Opções: [r]epetir | [n]ovas proposições | [s]air"] ++ "Escolha (r/n/s): "
  return (account f g c ++ question, { d with stage := .afterwards f g proof, session := s })

/-- What is done with two formulas that were read. -/
def discuss (f : Formula) (names1 : Glossary) (g : Formula) (names2 : Glossary) (d : Dialogue γ) :
    Except Fault (Turn γ) := do
  let (same, v) ← Semantics.agreeShort f names1 g names2 d.session.values
  let d := { d with session := { d.session with values := v } }
  if !same then
    return after (lines ["Estas proposições NÃO são equivalentes.",
      "(Elas têm valores de verdade diferentes para algumas atribuições)"]) d.askFirst
  let checked := line "Verificação semântica: Proposições têm a mesma tabela verdade."
  if f.same g then
    return after (checked ++ lines ["", "As proposições já são sintaticamente iguais!"]) d.askFirst
  return after checked (← d.prove f g)

/-- The answer to a question for a formula. -/
inductive Answered where
  | quit
  | empty
  | unreadable (e : ParseError)
  | formula (f : Formula) (names : Glossary)

def Answered.ofLine (reading : Nat) (typed : String) : Answered :=
  let text := answerOf typed
  if isQuit (choiceOf typed) then .quit
  else if text = "" then .empty
  else match Formula.read reading text with
    | .error e => .unreadable e
    | .ok (f, names) => .formula f names

/-- The turn after an answer to a question for a formula; `which` tells the two apart. -/
def onAnswer (which : String) (d : Dialogue γ) (a : Answered)
    (go : Formula → Glossary → Except Fault (Turn γ)) : Except Fault (Turn γ) :=
  match a with
  | .quit => .ok d.leave
  | .empty => .ok (after (line "Por favor, digite uma proposição.") d.askFirst)
  | .unreadable e =>
    .ok (after (line s!"  Erro ao interpretar {which} proposição: {e.message}") d.askFirst)
  | .formula f names => (go f names).map (after (line s!"  Interpretado como: {f.text}"))

/-- The turn after a choice from the menu. -/
def onMenu (d : Dialogue γ) (choice : String) : Except Fault (Turn γ) := do
  if ["1", "i", "interactive", "interativo"].contains choice then
    return after (lines ["", rule '=' 60, "Digite duas proposições para verificar sua equivalência.",
      ""]) d.askFirst
  else if ["2", "d", "demo", "demonstracao"].contains choice then
    let (shown, s) ← demonstration d.session
    return after (line "" ++ shown) { d with session := s }.askMenu
  else if ["3", "t", "test", "teste"].contains choice then
    let (shown, s) ← examination d.session
    return after (line "" ++ shown) { d with session := s }.askMenu
  else if isQuit choice then return (farewell, { d with stage := .finished })
  else return after (line "Escolha inválida. Tente novamente.") d.askMenu

/-- The turn after a try to prove an equivalence. -/
def onAfterwards (d : Dialogue γ) (f g : Formula) (proof : Option Run) (choice : String) :
    Except Fault (Turn γ) :=
  if isQuit choice then .ok d.leave
  else if ["r", "retry", "rerun", "repetir"].contains choice then
    (d.prove f g).map (after (lines ["", rule '=' 40, "Repetindo com as mesmas proposições...",
      rule '=' 40]))
  else match proof with
    | some r =>
      if ["o", "optimize", "otimizar"].contains choice then do
        let (o, s) ← Prover.optimise d.session.advisor 15 true (r.steps.map .ofStep) f d.session
        return after (optimisationAccount o) (← { d with session := s }.prove f g)
      else .ok d.askFirst
    | none => .ok d.askFirst

/-- The turn after a typed line. -/
def onLine (d : Dialogue γ) (typed : String) : Except Fault (Turn γ) :=
  match d.stage with
  | .menu => d.onMenu (choiceOf typed)
  | .first => onAnswer "primeira" d (.ofLine 0 typed) fun f names => .ok (d.askSecond f names)
  | .second f names1 => onAnswer "segunda" d (.ofLine 1 typed) fun g names2 =>
      ({ d with session := d.session.forget }.discuss f names1 g names2).map (after (line ""))
  | .afterwards f g proof => d.onAfterwards f g proof (choiceOf typed)
  | .finished => .ok ("", d)

/-- What is shown when no more lines come. -/
def onEnd (d : Dialogue γ) : String :=
  match d.stage with
  | .finished => ""
  | .menu => farewell
  | .first | .second _ _ | .afterwards _ _ _ =>
    if d.fromMenu then farewell ++ menu ++ farewell else farewell

/-- Everything shown while the lines are typed. -/
def run (d : Dialogue γ) : List String → Except Fault String
  | [] => .ok d.onEnd
  | typed :: rest => do
    let (shown, d) ← d.onLine typed
    return shown ++ (← run d rest)

def header : String :=
  lines [rule '=' 60, "  PyLogic - Demonstrador Interativo de Equivalências", rule '=' 60, "",
    "Guia de Sintaxe:", "  Negação:     ~p, !p, NOT p", "  E (AND):     p ^ q, p & q, p AND q",
    "  OU (OR):     p v q, p | q, p OR q", "  Implicação:  p -> q, p => q, p IMPLIES q",
    "  Constantes:  T (Verdadeiro), F (Falso)", "  Agrupamento: (p ^ q), ~(p v q)", ""]

def usage : String :=
  lines ["Uso: python main.py [OPÇÕES]", "", "Opções:",
    "  --interactive, -i  Executa modo interativo diretamente",
    "  --demo, -d         Executa modo demonstração com exemplos simples",
    "  --test, -t         Executa suite de testes abrangentes",
    "  --help, -h         Exibe esta mensagem de ajuda", "",
    "Sem argumentos, exibe o menu de seleção de modo."]

/-- The first turn, which depends on the first argument only. -/
def start (args : List String) (s : Session γ) : Except Fault (Turn γ) := do
  let finished : Session γ → Dialogue γ := fun s => ⟨.finished, false, s⟩
  match args.head? with
  | some "--help" | some "-h" => return (header ++ usage, finished s)
  | some "--demo" | some "-d" =>
    let (shown, s) ← demonstration s
    return (header ++ shown, finished s)
  | some "--test" | some "-t" =>
    let (shown, s) ← examination s
    return (header ++ shown, finished s)
  | some "--interactive" | some "-i" =>
    return after (header ++ lines ["Digite duas proposições para verificar sua equivalência.", ""])
      (askFirst ⟨.first, false, s⟩)
  | _ => return after header (askMenu ⟨.menu, true, s⟩)

end Dialogue

end LogicTutor.Console
