import LogicTutor.Prover.Optimiser

/-! What a talkative prover says. Everything it says follows from what it brought about, so a
transcript is a text made of the run. -/
namespace LogicTutor.Transcript

def line (s : String) : String := s ++ "\n"

def lines (xs : List String) : String := xs.foldl (fun acc s => acc ++ line s) ""

def rule (c : Char) (n : Nat) : String := String.ofList (List.replicate n c)

/-- A heading between two lines of equal signs, after an empty line. -/
def banner (width : Nat) (title : String) : String :=
  lines ["", rule '=' width, title, rule '=' width]

/-- The formula that a connective makes of its operands. -/
def composed (c : Connective) (f : Formula) (g : Option Formula) : Formula :=
  ((Formula.compose c f g).toOption).getD .blank

def sideText (side : Int) : String := toString side

def marker (guided : Option Bool) : String := if guided = some true then "[NN]" else "[RND]"

def randomStep (s : Step) : String :=
  line s!"[{s.iteration}] Aplicado {s.law.name} em prop{sideText s.side}: {s.result}"

def guidedStep (s : Step) : String :=
  line s!"[{s.iteration}] {marker s.guided} Aplicado {s.law.name} em prop{sideText s.side}: {s.result}"

def simplifyStep (s : Step) : String :=
  line s!"[{s.iteration}] {marker s.guided} {s.law.name}: {s.result}"

def steps (show1 : Step → String) (xs : List Step) : String :=
  xs.foldl (fun acc s => acc ++ show1 s) ""

def finals (r : Run) : String :=
  lines [s!"  Prop 1 final: {r.final1.text}", s!"  Prop 2 final: {r.final2.text}"]

/-- A success is announced unless it came with the very last pass. -/
def random (passes : Nat) (f g : Formula) (r : Run) : String :=
  lines ["Iniciando prova:", s!"  Prop 1: {f.text}", s!"  Prop 2: {g.text}", ""] ++
  steps randomStep r.steps ++
  if r.success then
    if r.iterations < passes then
      lines ["", s!"Proposições são iguais após {r.iterations} iterações!"]
    else ""
  else lines ["", s!"Falha ao provar equivalência após {passes} iterações."] ++ finals r

def guided (passes : Nat) (f g : Formula) (r : Run) : String :=
  lines ["Iniciando prova guiada por NN:", s!"  Prop 1: {f.text}", s!"  Prop 2: {g.text}", ""] ++
  steps guidedStep r.steps ++
  if r.success then
    if r.iterations < passes then
      lines ["", s!"Proposições são iguais após {r.iterations} iterações!",
        s!"Predições NN usadas: {r.guidedCount}"]
    else ""
  else lines ["", s!"Falha ao provar equivalência após {passes} iterações.",
    s!"Predições NN usadas: {r.guidedCount}"] ++ finals r

def simplify (passes : Nat) (goal : String) (f : Formula) (success : Bool) (iterations : Nat)
    (final : Formula) (record : List Step) : String :=
  lines [s!"[SimplificationPredictor] Simplificando para {goal}:", s!"  Inicial: {f.text}", ""] ++
  steps simplifyStep record ++
  if success then
    if iterations < passes then
      lines ["", s!"[SUCESSO] Alcançou {goal} após {iterations} iterações!"]
    else ""
  else lines ["", s!"[FALHA] Não foi possível alcançar {goal} após {passes} iterações",
    s!"  Final: {final.text}"]

def twoWay (passes : Nat) (f g : Formula) (t : TwoWay) : String :=
  banner 50 "ESTRATÉGIA DE PROVA BIDIRECIONAL" ++
  lines [s!"Provar: {f.text} ≡ {g.text}",
    "Estratégia: Mostrar (P1 → P2) = T E (P2 → P1) = T", "",
    rule '-' 50, s!"PASSO 1: Provar ({f.text}) → ({g.text}) = T", rule '-' 50] ++
  guided passes (composed .imp f (some g)) (.const true) t.forward ++
  match t.backward with
  | none => lines ["", "[FALHA] Não foi possível provar P1 → P2 = T"]
  | some r =>
    lines ["", s!"[SUCESSO] P1 → P2 = T provado em {t.forward.iterations} passos", "",
      rule '-' 50, s!"PASSO 2: Provar ({g.text}) → ({f.text}) = T", rule '-' 50] ++
    guided passes (composed .imp g (some f)) (.const true) r ++
    if r.success then
      lines ["", s!"[SUCESSO] P2 → P1 = T provado em {r.iterations} passos", "",
        rule '=' 50, "PROVA BIDIRECIONAL COMPLETA!", "Como (P1 → P2) = T e (P2 → P1) = T,",
        "concluímos P1 ≡ P2", rule '=' 50]
    else lines ["", "[FALHA] Não foi possível provar P2 → P1 = T"]

def contrapositive (passes : Nat) (f g : Formula) (r : Run) : String :=
  let nf := composed .not f none
  let ng := composed .not g none
  banner 50 "ESTRATÉGIA DE PROVA POR CONTRAPOSITIVA" ++
  lines [s!"Provar: {f.text} ≡ {g.text}", "Estratégia: Provar ~P1 ≡ ~P2", "",
    s!"Provando: {nf.text} ≡ {ng.text}", rule '-' 50] ++
  guided passes nf ng r ++
  if r.success then
    lines ["", "[SUCESSO] Prova por contrapositiva bem-sucedida!",
      "Como ~P1 ≡ ~P2, concluímos P1 ≡ P2"]
  else ""

/-- `simplifier` says whether somebody gave advice on single formulas. -/
def absurdity (simplifier : Bool) (passes : Nat) (f g : Formula) (r : Run) : String :=
  let a := composed .and f (some (composed .not g none))
  banner 50 "PROVA POR ABSURDO (Reductio ad Absurdum)" ++
  lines [s!"Provar: {f.text} ≡ {g.text}", "Estratégia: Mostrar (P1 ^ ~P2) = F (contradição)"] ++
  (if simplifier then
    line "Usando: SimplificationPredictor (especializado para absurdo)" else "") ++
  lines ["", s!"Provando: {a.text} = F", rule '-' 50] ++
  (if simplifier then simplify passes "F" a r.success r.iterations r.final1 r.steps
    else guided passes a (.const false) r) ++
  if r.success then
    lines ["", "[SUCESSO] Prova por absurdo bem-sucedida!",
      "(P1 ^ ~P2) = F significa que P1 implica P2",
      "Combinado com equivalência semântica, P1 ≡ P2"]
  else ""

def strategyTitle (title : String) : String :=
  lines ["", rule '-' 60, title, rule '-' 60]

def verdict (name : String) (r : Run) : String :=
  if r.success then lines ["", s!"✓ {name} bem-sucedida em {r.iterations} passos"]
  else lines ["", s!"✗ {name} falhou após {r.iterations} iterações"]

def inTurn (simplifier : Bool) (passes : Nat) (f g : Formula) (c : Campaign) : String :=
  banner 60 "  PROVA MULTI-ESTRATÉGIA" ++
  lines ["", s!"Tentando provar: {f.text} ≡ {g.text}"] ++
  strategyTitle "[Estratégia 1] Prova por transformação direta" ++
  guided passes f g c.direct ++ verdict "Prova direta" c.direct ++
  (match c.contrapositive with
    | none => ""
    | some r =>
      strategyTitle "[Estratégia 2] Prova por contrapositiva (~P1 ≡ ~P2)" ++
      contrapositive passes f g r ++ verdict "Prova por contrapositiva" r) ++
  match c.absurdity with
  | none => ""
  | some r =>
    strategyTitle "[Estratégia 3] Prova por absurdo (P1 ^ ~P2 = F)" ++
    absurdity simplifier passes f g r ++ verdict "Prova por absurdo" r ++
    if r.success then ""
    else lines ["", rule '=' 60, "Todas as estratégias de prova esgotadas.", rule '=' 60]

/-- The first sixty characters, with dots if there are more. -/
def cut (s : String) : String :=
  if 60 < s.length then String.ofList (s.toList.take 60) ++ "..." else s

def approach (before : Nat) (a : Approach) : String :=
  lines [s!"Tentando alcançar passo {a.waypoint.step} diretamente...",
    s!"  Alvo: {cut a.waypoint.text}"] ++
  if a.run.success then
    lines [s!"  ✓ Atalho encontrado! {a.run.iterations} passos para alcançar passo {a.waypoint.step}",
      s!"    Original: {before} passos",
      s!"    Com atalho: {a.totalSteps before} passos (economia de {a.savings before})"]
  else line "  ✗ Não foi possível encontrar caminho direto"

def innerShortcut (s : Shortcut) : String :=
  let source := (s.source.map toString).getD ""
  line s!"  ✓ Atalho: passo {source} → passo {s.target} em {s.steps} passos (economia de {s.savings})"

def optimisation (o : Optimisation) : String :=
  let head := fun (before : Nat) =>
    banner 60 "  OTIMIZAÇÃO DA PROVA" ++
    lines [s!"Prova original tem {before} passos", "Procurando atalhos...", ""]
  match o with
  | .noProof | .minimal _ => ""
  | .unreadable before => head before
  | .searched before waypoints approaches inner =>
    head before ++
    approaches.foldl (fun acc a => acc ++ approach before a) "" ++
    (if 3 < waypoints then lines ["", "Verificando atalhos entre estados intermediários..."]
      else "") ++
    inner.foldl (fun acc s => acc ++ innerShortcut s) "" ++
    if o.shortcuts.isEmpty then
      lines ["", "Nenhum atalho encontrado. Prova original já é ótima."]
    else match o.best? with
      | none => ""
      | some a =>
        lines ["", rule '-' 60,
          s!"RESULTADO DA OTIMIZAÇÃO: Economia de {a.savings before} passos!",
          s!"  Original: {before} passos", s!"  Otimizada: {a.totalSteps before} passos",
          rule '-' 60]

def proveAndOptimise (passes : Nat) (f g : Formula) (p : Optimised) : String :=
  banner 60 "  PROVAR E OTIMIZAR" ++
  lines ["", s!"Provando: {f.text} ≡ {g.text}", ""] ++
  guided passes f g p.direct ++
  ((p.campaign.map (inTurn false passes f g)).getD "") ++
  match p.optimisation with
  | none => ""
  | some o =>
    lines ["", s!"Prova inicial encontrada com {p.initialSteps.length} passos",
      "Tentando otimização..."] ++ optimisation o

end LogicTutor.Transcript
