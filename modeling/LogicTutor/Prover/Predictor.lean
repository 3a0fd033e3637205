import LogicTutor.Feature.Row
import LogicTutor.Prover.Advisor

/-! Predictors: models that read a row of features and answer with the number of a class, and the
moves that the classes stand for. -/
namespace LogicTutor

/-- The classes of moves on a pair of formulas. -/
def pairClasses : List (Int × Law) :=
  [(1, .doubleNegation), (1, .idempotence), (1, .absorption), (1, .implicationElimination),
   (1, .deMorgan), (1, .commutativity),
   (2, .doubleNegation), (2, .idempotence), (2, .absorption), (2, .implicationElimination),
   (2, .deMorgan), (2, .commutativity),
   (1, .implicationIntroduction), (2, .implicationIntroduction),
   (1, .contraposition), (2, .contraposition), (1, .deMorganReverse), (2, .deMorganReverse),
   (1, .distributivity), (2, .distributivity), (1, .complement), (2, .complement),
   (1, .identity), (2, .identity), (1, .domination), (2, .domination),
   (1, .negationConstant), (2, .negationConstant),
   (1, .implicationConstant), (2, .implicationConstant),
   (1, .factoring), (2, .factoring), (1, .associativity), (2, .associativity)]

/-- The classes of moves on a single formula. -/
def singleClasses : List Law :=
  [.complement, .domination, .identity, .negationConstant, .distributivity, .factoring,
   .associativity, .doubleNegation, .deMorgan, .idempotence, .absorption,
   .implicationElimination, .implicationConstant, .commutativity, .contraposition,
   .implicationIntroduction, .deMorganReverse]

/-- The entry of a list under a number that may be out of range. -/
def classAt? {α : Type} (xs : List α) (n : Int) : Option α :=
  if n < 0 then none else xs[n.toNat]?

/-- The move of a class; a number without a class stands for the first. -/
def pairMove (n : Int) : Int × Law := (classAt? pairClasses n).getD (1, .doubleNegation)

def singleMove (n : Int) : Law := (classAt? singleClasses n).getD .complement

/-- The class of a move; an unknown move has the first class. -/
def pairClass (side : Int) (law : String) : Nat :=
  (pairClasses.findIdx? fun c => c.1 = side ∧ c.2.name = law).getD 0

def singleClass (law : String) : Nat := (singleClasses.findIdx? fun c => c.name = law).getD 0

/-- Somebody who suggests moves of type `α`. -/
inductive Predictor (α : Type) where
  /-- The moves of a list in turn, over and over. -/
  | script (moves : List α)
  /-- A trained model with its number of classes. -/
  | trained (classes : Nat) (classify : List Rat → Int)
  | untrained

/-- What a prover works with: a source of chance, the values that atoms hold at present, and the
predictors, each with the number of times it has been asked. -/
structure Session (γ : Type) where
  chance : γ
  values : Valuation
  pair : Option (Predictor (Int × String))
  single : Option (Predictor String)
  pairTurn : Nat
  singleTurn : Nat

namespace Session

variable {γ : Type}

def start (chance : γ) (pair : Option (Predictor (Int × String)))
    (single : Option (Predictor String)) : Session γ :=
  ⟨chance, .initial, pair, single, 0, 0⟩

def draw [Source γ] (s : Session γ) : Nat × Session γ :=
  let (n, g) := Source.draw s.chance
  (n, { s with chance := g })

/-- The move that comes in its turn. -/
def inTurn {α : Type} (moves : List α) (turn : Nat) : Option α := moves[turn % moves.length]?

/-- Advice on two propositions. A model looks at their features, which leaves values behind. -/
def advisePair (s : Session γ) (p q : Proposition) : Except Fault ((Int × String) × Session γ) :=
  match s.pair with
  | none => .error .noPredictor
  | some .untrained => .error .untrained
  | some (.script moves) =>
    .ok ((inTurn moves s.pairTurn).getD (1, ""), { s with pairTurn := s.pairTurn + 1 })
  | some (.trained _ classify) => do
    let (row, v) ← Feature.pairRow p q s.values
    let (side, law) := pairMove (classify row)
    return ((side, law.name), { s with values := v })

/-- Advice on a proposition that is to become the goal. -/
def adviseSingle (s : Session γ) (p : Proposition) (goal : String) :
    Except Fault (String × Session γ) :=
  match s.single with
  | none => .error .noPredictor
  | some .untrained => .error .untrained
  | some (.script moves) =>
    .ok ((inTurn moves s.singleTurn).getD "", { s with singleTurn := s.singleTurn + 1 })
  | some (.trained _ classify) => do
    let (row, v) ← Feature.singleRow p goal s.values
    return ((singleMove (classify row)).name, { s with values := v })

/-- The moves that a trained model gives a likelihood to. -/
def likelyPairs (s : Session γ) (p q : Proposition) :
    Except Fault (List (Int × Law) × Session γ) :=
  match s.pair with
  | some (.trained classes _) => do
    let (_, v) ← Feature.pairRow p q s.values
    return (pairClasses.take classes, { s with values := v })
  | none => .error .noPredictor
  | some _ => .error .untrained

def likelySingles (s : Session γ) (p : Proposition) (goal : String) :
    Except Fault (List Law × Session γ) :=
  match s.single with
  | some (.trained classes _) => do
    let (_, v) ← Feature.singleRow p goal s.values
    return (singleClasses.take classes, { s with values := v })
  | none => .error .noPredictor
  | some _ => .error .untrained

/-- A session in the role of a prover's advisor. Provers work on compounds. -/
def advisor [Source γ] (s : Session γ) : Advisor (Session γ) where
  draw := draw
  pair s f g := advisePair s (.compound f) (.compound g)
  single? := if s.single.isSome then
      some fun s f goal => adviseSingle s (.compound f) goal
    else none

/-- The session with all atoms false again. -/
def forget (s : Session γ) : Session γ := { s with values := .initial }

end Session

/-- The layers of a model. -/
structure Architecture where
  inputs : Nat
  hidden : List Nat
  outputs : Nat
  activation : String
  deriving DecidableEq, Repr

/-- The hidden layers of a model for pairs, unless others are asked for. -/
def pairHidden : List Nat := [64, 32]

def singleHidden : List Nat := [32, 16]

/-- The model for pairs: two rows of thirty-four features. -/
def pairArchitecture (hidden : List Nat) : Architecture :=
  ⟨68, hidden, pairClasses.length, "relu"⟩

/-- The model for single formulas: thirty-four features and the goal. -/
def singleArchitecture (hidden : List Nat) : Architecture :=
  ⟨35, hidden, singleClasses.length, "relu"⟩

end LogicTutor
