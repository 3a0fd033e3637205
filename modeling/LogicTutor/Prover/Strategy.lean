import LogicTutor.Prover.Run

/-! Ways to prove an equivalence by way of another one: of the negations, of both implications
with truth, of an absurd conjunction with falsehood, and several of them in turn. -/
namespace LogicTutor

inductive Strategy where
  | direct | contrapositive | absurdity
  deriving DecidableEq, Repr

def Strategy.name : Strategy → String
  | .direct => "direct"
  | .contrapositive => "contrapositive"
  | .absurdity => "absurdity"

/-- What came of both implications. The second is not tried if the first fails. -/
structure TwoWay where
  forward : Run
  backward : Option Run
  deriving DecidableEq, Repr

namespace TwoWay

def success (t : TwoWay) : Bool := t.forward.success && (t.backward.map Run.success).getD false

def iterations (t : TwoWay) : Nat :=
  t.forward.iterations + (t.backward.map Run.iterations).getD 0

def guidedCount (t : TwoWay) : Nat :=
  t.forward.guidedCount + (t.backward.map Run.guidedCount).getD 0

end TwoWay

/-- What came of the strategies tried in turn: the runs in the order in which they were made, all
but the last failed. -/
structure Campaign where
  direct : Run
  contrapositive : Option Run
  absurdity : Option Run
  deriving DecidableEq, Repr

namespace Campaign

def runs (c : Campaign) : List (Strategy × Run) :=
  (.direct, c.direct) :: (c.contrapositive.toList.map (.contrapositive, ·) ++
    c.absurdity.toList.map (.absurdity, ·))

/-- The strategy that succeeded. -/
def winner? (c : Campaign) : Option (Strategy × Run) := c.runs.find? fun r => r.2.success

def success (c : Campaign) : Bool := c.winner?.isSome

def totalIterations (c : Campaign) : Nat := c.runs.foldl (fun n r => n + r.2.iterations) 0

end Campaign

namespace Prover

variable {σ : Type}

/-- Proves the equivalence of the negations. -/
def contrapositive (A : Advisor σ) (passes : Nat) (f g : Formula) (s : σ) :
    Except Fault (Run × σ) := do
  let nf ← Formula.compose .not f none
  let ng ← Formula.compose .not g none
  guided A passes nf ng s

/-- The formula that must be absurd for `f` to imply `g`. -/
def assumption (f g : Formula) : Except Fault Formula := do
  let ng ← Formula.compose .not g none
  Formula.compose .and f (some ng)

/-- Proves that `f` together with the negation of `g` is absurd. -/
def absurdity (A : Advisor σ) (passes : Nat) (f g : Formula) (s : σ) :
    Except Fault (Run × σ) := do
  let a ← assumption f g
  match A.single? with
  | some advise =>
    let (r, s) ← simplify A advise "F" passes a s
    return (r.toRun (.const false), s)
  | none => guided A passes a (.const false) s

/-- Proves that both implications are true. -/
def twoWay (A : Advisor σ) (passes : Nat) (f g : Formula) (s : σ) :
    Except Fault (TwoWay × σ) := do
  let forward ← Formula.compose .imp f (some g)
  let (r, s) ← guided A passes forward (.const true) s
  if r.success then
    let backward ← Formula.compose .imp g (some f)
    let (q, s) ← guided A passes backward (.const true) s
    return (⟨r, some q⟩, s)
  else return (⟨r, none⟩, s)

/-- Tries the direct proof, then the contrapositive, then the absurdity. -/
def inTurn (A : Advisor σ) (passes : Nat) (f g : Formula) (s : σ) :
    Except Fault (Campaign × σ) := do
  let (d, s) ← guided A passes f g s
  if d.success then return (⟨d, none, none⟩, s)
  let (c, s) ← contrapositive A passes f g s
  if c.success then return (⟨d, some c, none⟩, s)
  let (a, s) ← absurdity A passes f g s
  return (⟨d, some c, some a⟩, s)

end Prover

end LogicTutor
