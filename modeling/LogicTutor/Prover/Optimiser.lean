import LogicTutor.Formula.Parser
import LogicTutor.Prover.Strategy

/-! Shorter proofs out of longer ones: the formulas a proof passed through are read back, and the
guided prover looks for quick ways to reach them. -/
namespace LogicTutor

/-- What the optimiser reads of a recorded step. A step without a number or a law is of no use. -/
structure Milestone where
  iteration : Option Int
  hasLaw : Bool
  result : String
  deriving DecidableEq, Repr

def Milestone.ofStep (s : Step) : Milestone := ⟨some s.iteration, true, s.result⟩

/-- A formula that a proof passed through. -/
structure Waypoint where
  step : Int
  formula : Formula
  text : String
  deriving DecidableEq, Repr

namespace Waypoint

/-- Reads a milestone back. Leaves are no waypoints. -/
def ofMilestone? (reading : Nat) (m : Milestone) : Option Waypoint :=
  match Formula.parse reading m.result with
  | .error _ => none
  | .ok (.leaf _) => none
  | .ok f => match m.iteration with
    | some i => if m.hasLaw then some ⟨i, f, m.result⟩ else none
    | none => none

/-- The waypoints of a record. Each milestone is a reading of its own, after those of the two
formulas. -/
def ofRecord (record : List Milestone) : List Waypoint :=
  (record.zipIdx 2).filterMap fun (m, reading) => ofMilestone? reading m

end Waypoint

/-- A way found to a waypoint: from the start, or from an earlier waypoint. -/
structure Shortcut where
  source : Option Int
  target : Int
  steps : Nat
  savings : Int
  deriving DecidableEq, Repr

/-- A try to reach a waypoint from the start of the proof. -/
structure Approach where
  waypoint : Waypoint
  run : Run
  deriving DecidableEq, Repr

namespace Approach

/-- Steps of the whole proof if it takes this way. -/
def totalSteps (a : Approach) (before : Nat) : Int :=
  a.run.iterations + (before - a.waypoint.step - 1)

def savings (a : Approach) (before : Nat) : Int := before - a.totalSteps before

def shortcut (a : Approach) (before : Nat) : Shortcut :=
  ⟨none, a.waypoint.step, a.run.iterations, a.savings before⟩

end Approach

/-- What came of an optimisation. -/
inductive Optimisation where
  /-- There is no successful proof with steps. -/
  | noProof
  /-- The proof has two steps at most. -/
  | minimal (before : Nat)
  /-- No step could be read back. -/
  | unreadable (before : Nat)
  /-- The approaches tried from the start, and the shortcuts between waypoints. -/
  | searched (before waypoints : Nat) (approaches : List Approach) (inner : List Shortcut)
  deriving DecidableEq, Repr

namespace Optimisation

def shortcuts : Optimisation → List Shortcut
  | .searched before _ approaches inner =>
      ((approaches.filter fun a => a.run.success).map fun a => a.shortcut before) ++ inner
  | _ => []

/-- The better of two approaches, the earlier one on a tie. -/
def better (before : Nat) (best : Option Approach) (a : Approach) : Option Approach :=
  if a.run.success && (best.map fun b => b.savings before).getD 0 < a.savings before then some a
  else best

/-- The approach that saves most, if one saves anything. -/
def best? : Optimisation → Option Approach
  | .searched before _ approaches _ => approaches.foldl (better before) none
  | _ => none

end Optimisation

namespace Prover

variable {σ : Type}

/-- Tries to reach each waypoint directly. -/
def approachAll (A : Advisor σ) (passes : Nat) (f : Formula) :
    List Waypoint → σ → Except Fault (List Approach × σ)
  | [], s => .ok ([], s)
  | w :: ws, s => do
    let (r, s) ← guided A passes f w.formula s
    let (rest, s) ← approachAll A passes f ws s
    return (⟨w, r⟩ :: rest, s)

/-- Tries to get from one waypoint to each of the later ones in fewer steps than the proof took. -/
def between (A : Advisor σ) (passes : Nat) (source : Waypoint) :
    List Waypoint → σ → Except Fault (List Shortcut × σ)
  | [], s => .ok ([], s)
  | target :: ws, s => do
    let gap := target.step - source.step
    if gap < 3 then between A passes source ws s
    else
      let (r, s) ← guided A (min passes (gap - 1).toNat) source.formula target.formula s
      let saved := gap - r.iterations - 1
      let (rest, s) ← between A passes source ws s
      if r.success && 0 < saved then
        return (⟨some source.step, target.step, r.iterations, saved⟩ :: rest, s)
      else return (rest, s)

/-- Looks for shortcuts from each waypoint to those at least three places later. -/
def betweenAll (A : Advisor σ) (passes : Nat) :
    List Waypoint → σ → Except Fault (List Shortcut × σ)
  | [], s => .ok ([], s)
  | w :: ws, s => do
    let (here, s) ← between A passes w (ws.drop 2) s
    let (rest, s) ← betweenAll A passes ws s
    return (here ++ rest, s)

/-- Looks for a shorter proof than the recorded one, which starts at `f`. -/
def optimise (A : Advisor σ) (passes : Nat) (success : Bool) (record : List Milestone)
    (f : Formula) (s : σ) : Except Fault (Optimisation × σ) := do
  if !success || record.isEmpty then return (.noProof, s)
  let before := record.length
  if before ≤ 2 then return (.minimal before, s)
  let ways := Waypoint.ofRecord record
  if ways.isEmpty then return (.unreadable before, s)
  let targets := (ways.drop 1).reverse.filter fun w => 2 ≤ w.step
  let (approaches, s) ← approachAll A passes f targets s
  let (inner, s) ← betweenAll A passes ways s
  return (.searched before ways.length approaches inner, s)

end Prover

/-- A proof, the strategies that it took, and its optimisation. -/
structure Optimised where
  /-- The direct try, and the campaign that followed if it failed. -/
  direct : Run
  campaign : Option Campaign
  /-- None if there was no proof to optimise. -/
  optimisation : Option Optimisation
  deriving DecidableEq, Repr

namespace Optimised

/-- The steps of the proof that was found first. -/
def initialSteps (p : Optimised) : List Step :=
  if p.direct.success then p.direct.steps
  else ((p.campaign.bind Campaign.winner?).map fun w => w.2.steps).getD []

end Optimised

namespace Prover

variable {σ : Type}

/-- Proves an equivalence in one of several ways and then looks for a shorter proof. -/
def proveAndOptimise (A : Advisor σ) (passes tries : Nat) (f g : Formula) (s : σ) :
    Except Fault (Optimised × σ) := do
  let (d, s) ← guided A passes f g s
  if d.success then
    let (o, s) ← optimise A tries true (d.steps.map .ofStep) f s
    return (⟨d, none, some o⟩, s)
  let (c, s) ← inTurn A.pairOnly passes f g s
  match c.winner? with
  | none => return (⟨d, some c, none⟩, s)
  | some (_, r) =>
    let (o, s) ← optimise A tries true (r.steps.map .ofStep) f s
    return (⟨d, some c, some o⟩, s)

end Prover

end LogicTutor
