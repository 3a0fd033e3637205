import LogicTutor.Feature.Usefulness
import LogicTutor.Law.Position

/-! The numbers by which a predictor knows a formula: its shape, the usefulness of its names, and
the laws that apply somewhere in it. -/
namespace LogicTutor

namespace Formula

def depth : Formula → Nat
  | .blank => 0
  | .leaf _ => 1
  | .unary _ x => 1 + x.depth
  | .binary _ x y => 1 + max x.depth y.depth

def nodeCount : Formula → Nat
  | .blank => 0
  | .leaf _ => 1
  | .unary _ x => 1 + x.nodeCount
  | .binary _ x y => 1 + x.nodeCount + y.nodeCount

def leafCount : Formula → Nat
  | .blank => 0
  | .leaf _ => 1
  | .unary _ x => x.leafCount
  | .binary _ x y => x.leafCount + y.leafCount

def connectiveCount (c : Connective) : Formula → Nat
  | .blank | .leaf _ => 0
  | .unary d x => (if d = c then 1 else 0) + x.connectiveCount c
  | .binary d x y => (if d = c then 1 else 0) + x.connectiveCount c + y.connectiveCount c

/-- A negation stands over a negation somewhere. -/
def hasDoubleNegation : Formula → Bool
  | .neg (.neg _) => true
  | .blank | .leaf _ => false
  | .unary _ x => x.hasDoubleNegation
  | .binary _ x y => x.hasDoubleNegation || y.hasDoubleNegation

/-- A negation stands over a conjunction or disjunction somewhere. -/
def hasNegatedLattice : Formula → Bool
  | .blank | .leaf _ => false
  | .neg (.binary c x y) =>
      Law.isLattice c || (Formula.binary c x y).hasNegatedLattice
  | .unary _ x => x.hasNegatedLattice
  | .binary _ x y => x.hasNegatedLattice || y.hasNegatedLattice

def isImplication : Formula → Bool
  | .binary .imp _ _ => true
  | _ => false

def isBinary : Formula → Bool
  | .binary _ _ _ => true
  | _ => false

end Formula

namespace Feature

/-- One feature: yes or no. -/
def flag (b : Bool) : Rat := if b then 1 else 0

def count (n : Nat) : Rat := n

/-- The features that only the tree decides. -/
def shape (f : Formula) : List Rat :=
  [count f.depth, count f.nodeCount, count f.leafCount,
   count (f.connectiveCount .not), count (f.connectiveCount .and), count (f.connectiveCount .or),
   count (f.connectiveCount .imp),
   flag f.hasDoubleNegation, flag f.hasNegatedLattice, flag f.isImplication, flag f.isBinary,
   flag f.isLeaf]

def usefulness (u : Usefulness) : List Rat :=
  [count u.useful.length, count u.useless.length, u.ratio, flag u.tautology, flag u.contradiction]

/-- The features of shape and usefulness. -/
def row (p : Proposition) (v : Valuation) : Except Fault (List Rat × Valuation) := do
  let (u, w) ← Usefulness.ofProposition p v
  return (shape p.formula ++ usefulness u, w)

/-- The laws in the order of their applicability features. -/
def lawOrder : List Law :=
  [.doubleNegation, .idempotence, .absorption, .factoring, .identity, .domination,
   .negationConstant, .complement, .implicationConstant, .deMorgan, .commutativity,
   .associativity, .implicationElimination, .implicationIntroduction, .contraposition,
   .deMorganReverse, .distributivity]

/-- For each law, whether it applies somewhere. -/
def applicability (p : Proposition) : List Rat :=
  lawOrder.map fun law => flag (law.appliesInside p.formula)

/-- The row of two propositions: both shapes, then both applicabilities. -/
def pairRow (p q : Proposition) (v : Valuation) : Except Fault (List Rat × Valuation) := do
  let (a, w) ← row p v
  let (b, u) ← row q w
  return (a ++ b ++ applicability p ++ applicability q, u)

/-- The goal is the constant T. -/
def isTrueGoal (goal : String) : Bool := goal == "T" || goal == "t"

/-- The goal is the constant F. -/
def isFalseGoal (goal : String) : Bool := goal == "F" || goal == "f"

/-- The row of one proposition that is to be simplified to a constant. -/
def singleRow (p : Proposition) (goal : String) (v : Valuation) :
    Except Fault (List Rat × Valuation) := do
  let (a, w) ← row p v
  return (a ++ applicability p ++ [flag (isTrueGoal goal)], w)

end Feature

end LogicTutor
