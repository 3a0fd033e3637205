import LogicTutor.Law.Basic

/-! Laws applied inside a formula. A position is a path from the root; a path may also lead
nowhere. -/
namespace LogicTutor

/-- A step down the tree. `other` names no operand. -/
inductive Direction where
  | left | right | other
  deriving DecidableEq, Repr

def Direction.name : Direction → String
  | .left => "left"
  | .right => "right"
  | .other => ""

abbrev Path := List Direction

namespace Formula

/-- The formula that a path leads to: an unknown step stays where it is, the path ends at a leaf,
and the second operand of a connective that has only one is nothing. -/
def subformula? : Formula → Path → Option Formula
  | .blank, _ => none
  | f, [] => some f
  | .unary _ x, .left :: p => x.subformula? p
  | .unary _ _, .right :: _ => none
  | .binary _ x _, .left :: p => x.subformula? p
  | .binary _ _ y, .right :: p => y.subformula? p
  | .unary c x, .other :: p => (Formula.unary c x).subformula? p
  | .binary c x y, .other :: p => (Formula.binary c x y).subformula? p
  | f, _ :: _ => some f

end Formula

namespace Law

/-- Applies the law at the end of a path. A path that leads nowhere changes nothing. -/
def applyAt (law : Law) : Formula → Path → Formula
  | f, [] => law.apply f
  | .unary c x, .left :: p => .unary c (law.applyAt x p)
  | .binary c x y, .left :: p => .binary c (law.applyAt x p) y
  | .binary c x y, .right :: p => .binary c x (law.applyAt y p)
  | f, _ :: _ => f

/-- The paths, first to last in preorder, that lead from the formula's root to an operand to which
the law applies. -/
def locations (law : Law) : Formula → List Path
  | .blank | .leaf _ => []
  | .unary _ x => below .left x (locations law x)
  | .binary _ x y => below .left x (locations law x) ++ below .right y (locations law y)
where
  below (d : Direction) (x : Formula) (inside : List Path) : List Path :=
    ((if law.applies x then [[]] else []) ++ inside).map (d :: ·)

/-- Whether the law applies to the formula or to some part of it. -/
def appliesInside (law : Law) : Formula → Bool
  | .blank | .leaf _ => false
  | .unary c x => law.applies (.unary c x) || law.appliesInside x
  | .binary c x y => law.applies (.binary c x y) || law.appliesInside x || law.appliesInside y

/-- Where the law applies: at the root, if it does, then below it. -/
def positions (law : Law) (f : Formula) : List Path :=
  (if law.applies f then [[]] else []) ++ law.locations f

end Law

end LogicTutor
