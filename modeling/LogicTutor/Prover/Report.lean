import LogicTutor.Json.Basic
import LogicTutor.Prover.Optimiser
import LogicTutor.Semantics.Table

/-! Proofs as data: the reports that provers hand out. -/
namespace LogicTutor.Report

def text (f : Formula) : Json := .str f.text

def nat (n : Nat) : Json := .int n

def step (s : Step) : Json :=
  .obj ([("iteration", nat s.iteration), ("proposition", .int s.side), ("law", .str s.law.name),
    ("result", .str s.result)] ++
    (s.guided.map fun b => ("used_nn", Json.bool b)).toList ++
    [("matched_subexpr", .ofOption s.matched), ("p1", .str s.first), ("p2", .str s.second)])

def steps (xs : List Step) : Json := .arr (xs.map step)

/-- The fields of a run that took no advice. -/
def plainFields (r : Run) : List (String × Json) :=
  [("success", .bool r.success), ("iterations", nat r.iterations),
   ("prop1_final", text r.final1), ("prop2_final", text r.final2),
   ("transformations", steps r.steps)]

def random (r : Run) : Json := .obj (plainFields r)

def guidedFields (r : Run) : List (String × Json) :=
  plainFields r ++ [("nn_predictions_used", nat r.guidedCount)]

def guided (r : Run) : Json := .obj (guidedFields r)

/-- The fields of a run made for another strategy: a failure gives its reason instead of the
number of times that advice was followed. -/
def strategyFields (s : Strategy) (r : Run) : List (String × Json) :=
  ("method", .str s.name) :: plainFields r ++
    [if r.success then ("nn_predictions_used", nat r.guidedCount)
      else ("reason", .str (s.name ++ "_failed"))]

def strategy (s : Strategy) (r : Run) : Json := .obj (strategyFields s r)

def reduction (r : Reduction) : Json :=
  .obj [("success", .bool r.success), ("iterations", nat r.iterations),
    ("transformations", steps r.steps), ("final_prop", text r.final),
    ("nn_predictions_used", nat r.guidedCount)]

def twoWay (t : TwoWay) : Json :=
  .obj [("success", .bool t.success), ("method", .str "bidirectional"),
    ("forward_proof", guided t.forward), ("backward_proof", (t.backward.map guided).getD .null),
    ("iterations", nat t.iterations),
    if t.success then ("nn_predictions_used", nat t.guidedCount)
    else ("reason", .str (if t.forward.success then "backward_implication_failed"
      else "forward_implication_failed"))]

/-- The report of the strategy that succeeded, or of all that failed. -/
def campaignFields (c : Campaign) : List (String × Json) :=
  let total := ("total_iterations", nat c.totalIterations)
  match c.winner? with
  | some (.direct, r) => guidedFields r ++ [("method", .str "direct"), total]
  | some (s, r) => strategyFields s r ++ [total]
  | none =>
    let run := fun (s : Strategy) (r : Option Run) => (r.map (strategy s)).getD .null
    [("success", .bool false), ("method", .str "all_failed"), ("direct_result", guided c.direct),
     ("contrapositive_result", run .contrapositive c.contrapositive),
     ("absurdity_result", run .absurdity c.absurdity), total]

def campaign (c : Campaign) : Json := .obj (campaignFields c)

def shortcut (s : Shortcut) : Json :=
  .obj ((match s.source with
      | some i => [("from_step", .int i), ("to_step", .int s.target)]
      | none => [("target_step", .int s.target)]) ++
    [("shortcut_steps", nat s.steps), ("savings", .int s.savings)])

def optimisation (o : Optimisation) : Json :=
  let failed := fun (fields : List (String × Json)) (reason : String) =>
    Json.obj (("optimized", .bool false) :: fields ++ [("reason", .str reason)])
  match o with
  | .noProof => failed [] "no_valid_proof_to_optimize"
  | .minimal n => failed [("original_steps", nat n)] "proof_already_minimal"
  | .unreadable n => failed [("original_steps", nat n)] "could_not_parse_intermediate_states"
  | .searched n _ _ _ =>
    let found := ("shortcuts_found", Json.arr (o.shortcuts.map shortcut))
    if o.shortcuts.isEmpty then failed [("original_steps", nat n), found] "no_shortcuts_found"
    else match o.best? with
      | none => failed [("original_steps", nat n), found] "no_beneficial_shortcuts"
      | some a =>
        .obj [("optimized", .bool true), ("original_steps", nat n),
          ("optimized_steps", .int (a.totalSteps n)), ("savings", .int (a.savings n)),
          ("best_shortcut", .obj [("target_step", .int a.waypoint.step),
            ("shortcut_result", guided a.run), ("total_steps", .int (a.totalSteps n)),
            ("savings", .int (a.savings n))]),
          found, ("optimized_proof", guided a.run)]

/-- Steps of the proof after optimisation. -/
def finalSteps (before : Nat) (o : Optimisation) : Int :=
  (o.best?.map fun a => a.totalSteps before).getD before

def optimised (p : Optimised) : Json :=
  match p.optimisation with
  | none => .obj [("success", .bool false), ("optimized", .bool false),
      ("reason", .str "could_not_find_initial_proof")]
  | some o =>
    let before := p.initialSteps.length
    .obj [("success", .bool true),
      ("initial_proof", (p.campaign.map campaign).getD (guided p.direct)),
      ("optimization", optimisation o), ("original_steps", nat before),
      ("final_steps", .int (finalSteps before o)), ("was_optimized", .bool o.best?.isSome)]

def truth (b : Option Bool) : Json := b.elim .null .bool

def table (t : TruthTable) : Json :=
  let inner := fun (xs : List (String × Option Bool)) =>
    Json.obj (xs.map fun x => (x.1, truth x.2))
  .obj [("variables", .arr (t.columns.map .str)), ("subexpressions_p1", .arr (t.inner1.map .str)),
    ("subexpressions_p2", .arr (t.inner2.map .str)),
    ("rows", .arr (t.rows.map fun r => .obj [
      ("values", .obj (r.values.map fun x => (x.1, .bool x.2))),
      ("subvalues_p1", inner r.inner1), ("subvalues_p2", inner r.inner2),
      ("p1", truth r.value1), ("p2", truth r.value2)]))]

/-- A step as it is shown to somebody. -/
structure Entry where
  iteration : Int
  side : Int
  law : String
  result : String
  guided : Bool
  matched : Option String
  first : String
  second : String
  deriving DecidableEq, Repr

namespace Entry

def ofStep (s : Step) : Entry :=
  ⟨s.iteration, s.side, s.law.name, s.result, s.guided = some true, s.matched, s.first, s.second⟩

def json (e : Entry) : Json :=
  .obj [("iteration", .int e.iteration), ("proposition", .int e.side), ("law", .str e.law),
    ("result", .str e.result), ("guided_by_nn", .bool e.guided),
    ("subexpression", .ofOption e.matched), ("p1", .str e.first), ("p2", .str e.second)]

/-- A number, filled up with blanks on the left. -/
def aligned (width : Nat) (n : Int) : String :=
  let s := toString n
  String.ofList (List.replicate (width - s.length) ' ') ++ s

def line (width : Nat) (e : Entry) : String :=
  let mark := if e.guided then "[NN]" else "[RND]"
  s!"  {aligned width e.iteration}. {mark} Aplicar {e.law} em P{e.side}: {e.result}"

end Entry

end LogicTutor.Report
