import LogicTutor.Prover.Advisor

/-! Provers that change formulas until they agree, and the record they keep. -/
namespace LogicTutor

/-- One recorded change. -/
structure Step where
  iteration : Nat
  side : Int
  law : Law
  /-- The changed formula. -/
  result : String
  /-- Whether advice was followed; provers that take none do not say. -/
  guided : Option Bool
  /-- What was replaced, if it was not the whole formula. -/
  matched : Option String
  /-- Both formulas after the change. -/
  first : String
  second : String
  deriving DecidableEq, Repr

/-- What a prover brought about. -/
structure Run where
  success : Bool
  iterations : Nat
  final1 : Formula
  final2 : Formula
  steps : List Step
  /-- How often advice was followed. -/
  guidedCount : Nat
  deriving DecidableEq, Repr

namespace Run

/-- The run in which nothing has happened before the pass with this number. -/
def stopped (success : Bool) (iteration : Nat) (f g : Formula) : Run :=
  ⟨success, iteration, f, g, [], 0⟩

/-- A run that starts with one more step. -/
def after (step : Step) (r : Run) : Run :=
  { r with
    steps := step :: r.steps
    guidedCount := r.guidedCount + if step.guided = some true then 1 else 0 }

end Run

/-- What came of simplifying one formula. -/
structure Reduction where
  success : Bool
  iterations : Nat
  final : Formula
  steps : List Step
  guidedCount : Nat
  deriving DecidableEq, Repr

namespace Reduction

def stopped (success : Bool) (iteration : Nat) (f : Formula) : Reduction :=
  ⟨success, iteration, f, [], 0⟩

/-- A reduction that starts with one more step. -/
def after (step : Step) (r : Reduction) : Reduction :=
  { r with
    steps := step :: r.steps
    guidedCount := r.guidedCount + if step.guided = some true then 1 else 0 }

/-- The reduction seen as a run towards the formula `g`, which stays as it is. -/
def toRun (r : Reduction) (g : Formula) : Run :=
  ⟨r.success, r.iterations, r.final, g, r.steps, r.guidedCount⟩

end Reduction

namespace Prover

variable {σ : Type}

/-- The two formulas after a move. -/
def advance (m : Move) (f g : Formula) : Formula × Formula :=
  if m.side = 1 then (m.result, g) else (f, m.result)

/-- The record of a move. -/
def record (iteration : Nat) (guided : Option Bool) (m : Move) (f g : Formula) : Step :=
  let (f', g') := advance m f g
  ⟨iteration, m.side, m.law, m.result.text, guided, m.matched, f'.text, g'.text⟩

/-- Passes of the prover that takes no advice: it draws a side and changes it. -/
def randomFrom (A : Advisor σ) : (passes iteration : Nat) → Formula → Formula → σ → Run × σ
  | 0, i, f, g, s => (.stopped (f.same g) i f g, s)
  | k + 1, i, f, g, s =>
    if f.same g then (.stopped true i f g, s)
    else
      let (n, s) := A.draw s
      let side : Int := if n % 2 = 0 then 1 else 2
      match Move.unadvised A [(side, if side = 1 then f else g)] s with
      | (none, s) => randomFrom A k (i + 1) f g s
      | (some m, s) =>
        let (f', g') := advance m f g
        let (r, s) := randomFrom A k (i + 1) f' g' s
        (r.after (record i none m f g), s)

/-- Tries to make two formulas the same by laws drawn at random. -/
def random (A : Advisor σ) (passes : Nat) (f g : Formula) (s : σ) : Run × σ :=
  randomFrom A passes 0 f g s

/-- The move of one pass of the guided prover, and whether it was advised. -/
def guidedMove (A : Advisor σ) (f g : Formula) (s : σ) :
    Except Fault (Option (Move × Bool) × σ) := do
  let ((side, name), s) ← A.pair s f g
  match Move.advised A side name (if side = 1 then f else g) s with
  | some (m, s) => return (some (m, true), s)
  | none =>
    let (m, s) := Move.unadvised A [(1, f), (2, g)] s
    return (m.map fun m => (m, false), s)

/-- Passes of the guided prover. -/
def guidedFrom (A : Advisor σ) :
    (passes iteration : Nat) → Formula → Formula → σ → Except Fault (Run × σ)
  | 0, i, f, g, s => .ok (.stopped (f.same g) i f g, s)
  | k + 1, i, f, g, s =>
    if f.same g then .ok (.stopped true i f g, s)
    else
      match guidedMove A f g s with
      | .error e => .error e
      | .ok (none, s) => guidedFrom A k (i + 1) f g s
      | .ok (some (m, guided), s) =>
        let (f', g') := advance m f g
        match guidedFrom A k (i + 1) f' g' s with
        | .error e => .error e
        | .ok (r, s) => .ok (r.after (record i (some guided) m f g), s)

/-- Tries to make two formulas the same, following advice where it can be followed. -/
def guided (A : Advisor σ) (passes : Nat) (f g : Formula) (s : σ) : Except Fault (Run × σ) :=
  guidedFrom A passes 0 f g s

/-- The laws that the simplifying prover falls back on, first those that simplify and then those
that bring complements together. -/
def simplifierOrder : List Law :=
  [.complement, .domination, .identity, .negationConstant, .doubleNegation, .idempotence,
   .absorption, .factoring,
   .distributivity, .associativity, .deMorgan, .implicationElimination, .commutativity]

/-- The goal names a constant and the formula is that constant. -/
def reached (goal : String) (f : Formula) : Bool :=
  (goal == "F" || goal == "f") && f.isFalse || (goal == "T" || goal == "t") && f.isTrue

/-- The move of one pass of the simplifying prover, and whether it was advised. -/
def simplifyingMove (A : Advisor σ) (advise : σ → Formula → String → Except Fault (String × σ))
    (goal : String) (f : Formula) (s : σ) : Except Fault (Option (Move × Bool) × σ) := do
  let (name, s) ← advise s f goal
  match Move.advised A 1 name f s with
  | some (m, s) => return (some (m, true), s)
  | none =>
    match Move.candidates simplifierOrder [(1, f)] with
    | c :: _ =>
      let (m, s) := Move.ofCandidate A c s
      return (some (m, false), s)
    | [] => return (none, s)

/-- Passes of the simplifying prover. -/
def simplifyFrom (A : Advisor σ) (advise : σ → Formula → String → Except Fault (String × σ))
    (goal : String) : (passes iteration : Nat) → Formula → σ → Except Fault (Reduction × σ)
  | 0, i, f, s => .ok (.stopped (reached goal f) i f, s)
  | k + 1, i, f, s =>
    if reached goal f then .ok (.stopped true i f, s)
    else
      match simplifyingMove A advise goal f s with
      | .error e => .error e
      | .ok (none, s) => simplifyFrom A advise goal k (i + 1) f s
      | .ok (some (m, guided), s) =>
        match simplifyFrom A advise goal k (i + 1) m.result s with
        | .error e => .error e
        | .ok (r, s) =>
          .ok (r.after ⟨i, 1, m.law, m.result.text, some guided, m.matched, m.result.text, goal⟩, s)

/-- Tries to turn a formula into the constant that the goal names. -/
def simplify (A : Advisor σ) (advise : σ → Formula → String → Except Fault (String × σ))
    (goal : String) (passes : Nat) (f : Formula) (s : σ) : Except Fault (Reduction × σ) :=
  simplifyFrom A advise goal passes 0 f s

end Prover

end LogicTutor
