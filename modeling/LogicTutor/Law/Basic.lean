import LogicTutor.Formula.Basic

/-! The laws of equivalence: where each applies and what it makes of the formula there. -/
namespace LogicTutor

inductive Law where
  | doubleNegation | deMorgan | deMorganReverse | commutativity | associativity | idempotence
  | absorption | distributivity | factoring | implicationElimination | implicationIntroduction
  | contraposition | identity | domination | negationConstant | complement | implicationConstant
  deriving DecidableEq, Repr, Inhabited

namespace Law

def all : List Law :=
  [.doubleNegation, .deMorgan, .deMorganReverse, .commutativity, .associativity, .idempotence,
   .absorption, .distributivity, .factoring, .implicationElimination, .implicationIntroduction,
   .contraposition, .identity, .domination, .negationConstant, .complement, .implicationConstant]

def name : Law → String
  | .doubleNegation => "double_negation"
  | .deMorgan => "de_morgan"
  | .deMorganReverse => "de_morgan_reverse"
  | .commutativity => "commutativity"
  | .associativity => "associativity"
  | .idempotence => "idempotence"
  | .absorption => "absorption"
  | .distributivity => "distributivity"
  | .factoring => "factoring"
  | .implicationElimination => "implication_elimination"
  | .implicationIntroduction => "implication_introduction"
  | .contraposition => "contraposition"
  | .identity => "identity"
  | .domination => "domination"
  | .negationConstant => "negation_constant"
  | .complement => "complement"
  | .implicationConstant => "implication_constant"

def ofName? (s : String) : Option Law := all.find? fun law => law.name = s

/-- Conjunction for disjunction and the reverse; the other connectives have no dual. -/
def dual? : Connective → Option Connective
  | .or => some .and
  | .and => some .or
  | _ => none

/-- Conjunction or disjunction. -/
def isLattice (c : Connective) : Bool := c == .or || c == .and

/-- A conjunction or disjunction of the other kind than `c`. -/
def isCross (c : Connective) : Formula → Bool
  | .binary d _ _ => isLattice d && d != c
  | _ => false

/-- `x` is one of the two operands of `y`, which joins them by the dual of `c`. -/
def absorbs (c : Connective) (x : Formula) : Formula → Bool
  | .binary d y z => dual? c == some d && (x.same y || x.same z)
  | _ => false

/-- `y` is the negation of `x`. -/
def negates (x : Formula) : Formula → Bool
  | .neg y => x.same y
  | _ => false

/-- Whether the law applies to the formula as a whole. -/
def applies : Law → Formula → Bool
  | .doubleNegation, .neg (.neg _) => true
  | .deMorgan, .neg (.binary c _ _) => isLattice c
  | .deMorganReverse, .binary c _ _ => isLattice c
  | .commutativity, .binary c _ _ => isLattice c
  | .associativity, .binary c (.binary d _ _) _ => isLattice c && d == c
  | .idempotence, .binary c x y => isLattice c && x.same y
  | .absorption, .binary c x y => isLattice c && (absorbs c x y || absorbs c y x)
  | .distributivity, .binary c x y => isLattice c && (isCross c x || isCross c y)
  | .factoring, .binary c (.binary d x y) (.binary e z w) =>
      isLattice c && dual? c == some d && dual? c == some e &&
        (x.same z || x.same w || y.same z || y.same w)
  | .implicationElimination, .binary .imp _ _ => true
  | .implicationIntroduction, .binary .or (.neg _) _ => true
  | .contraposition, .binary .imp _ _ => true
  | .identity, .binary .or x y => x.isFalse || y.isFalse
  | .identity, .binary .and x y => x.isTrue || y.isTrue
  | .domination, .binary .or x y => x.isTrue || y.isTrue
  | .domination, .binary .and x y => x.isFalse || y.isFalse
  | .negationConstant, .neg x => x.isConstant
  | .complement, .binary c x y => isLattice c && (negates x y || negates y x)
  | .implicationConstant, .binary .imp x y => x.isConstant || y.isConstant
  | _, _ => false

/-- Takes the factor that two sides share out of them. -/
def factor (c d : Connective) (x y z w : Formula) : Option Formula :=
  if x.same z then some (.binary d x (.binary c y w))
  else if x.same w then some (.binary d x (.binary c y z))
  else if y.same z then some (.binary d y (.binary c x w))
  else if y.same w then some (.binary d y (.binary c x z))
  else none

/-- What the law makes of a formula to which it applies. -/
def transform? : Law → Formula → Option Formula
  | .doubleNegation, .neg (.neg x) => some x
  | .deMorgan, .neg (.binary c x y) => (dual? c).map fun d => .binary d (.neg x) (.neg y)
  | .deMorganReverse, .binary c x y =>
      (dual? c).map fun d => .neg (.binary d (.neg x) (.neg y))
  | .commutativity, .binary c x y => some (.binary c y x)
  | .associativity, .binary c (.binary _ x y) z => some (.binary c x (.binary c y z))
  | .idempotence, .binary _ x _ => some x
  | .absorption, .binary c x y =>
      if absorbs c x y then some x else if absorbs c y x then some y else none
  | .distributivity, .binary c x y =>
      match x, y with
      | x, .binary d y z =>
        if isCross c (.binary d y z) then some (.binary d (.binary c x y) (.binary c x z))
        else match x with
          | .binary e u w =>
            some (.binary e (.binary c (.binary d y z) u) (.binary c (.binary d y z) w))
          | _ => none
      | .binary e u w, y => some (.binary e (.binary c y u) (.binary c y w))
      | _, _ => none
  | .factoring, .binary c (.binary d x y) (.binary _ z w) => factor c d x y z w
  | .implicationElimination, .binary _ x y => some (.binary .or (.neg x) y)
  | .implicationIntroduction, .binary _ (.unary _ x) y => some (.binary .imp x y)
  | .contraposition, .binary _ x y => some (.binary .imp (.neg y) (.neg x))
  | .identity, .binary .or x y =>
      if y.isFalse then some x else if x.isFalse then some y else none
  | .identity, .binary .and x y =>
      if y.isTrue then some x else if x.isTrue then some y else none
  | .domination, .binary .or _ _ => some (.const true)
  | .domination, .binary .and _ _ => some (.const false)
  | .negationConstant, .neg x =>
      if x.isTrue then some (.const false) else if x.isFalse then some (.const true) else none
  | .complement, .binary .or _ _ => some (.const true)
  | .complement, .binary .and _ _ => some (.const false)
  | .implicationConstant, .binary _ x y =>
      if x.isTrue then some y
      else if x.isFalse then some (.const true)
      else if y.isTrue then some (.const true)
      else if y.isFalse then some (.neg x)
      else none
  | _, _ => none

/-- Applies the law to the formula as a whole; where it does not apply nothing changes. -/
def apply (law : Law) (f : Formula) : Formula :=
  if law.applies f then (law.transform? f).getD f else f

end Law

end LogicTutor
