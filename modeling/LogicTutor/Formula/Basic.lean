/-! Formulas of propositional logic as trees, and how they are written. A tree need not be
well-formed: any connective may stand over one or over two operands, and `WellFormed` singles out
the trees in which each has its proper number. -/
namespace LogicTutor

inductive Connective where
  | or | and | not | imp
  deriving DecidableEq, Repr, Inhabited

def Connective.sign : Connective → String
  | .or => "v"
  | .and => "^"
  | .not => "¬"
  | .imp => "→"

/-- An atom is told from all others by the text that it was made for and by its number among the
atoms made for that text. Atoms may share a name and still hold different values. -/
structure Atom where
  reading : Nat
  number : Nat
  name : String
  deriving DecidableEq, Repr, Inhabited

/-- What stands at the ends of a tree: an atom, or one of the constants T and F. -/
inductive Leaf where
  | atom (a : Atom)
  | truth (b : Bool)
  deriving DecidableEq, Repr, Inhabited

namespace Leaf

def text : Leaf → String
  | .atom a => a.name
  | .truth true => "T"
  | .truth false => "F"

def isConstant : Leaf → Bool
  | .atom _ => false
  | .truth _ => true

end Leaf

/-- A tree over leaves. `blank` is the formula nobody has filled in; it stands alone, never under
a connective. -/
inductive Formula where
  | blank
  | leaf (l : Leaf)
  | unary (c : Connective) (x : Formula)
  | binary (c : Connective) (x y : Formula)
  deriving DecidableEq, Repr, Inhabited

/-- What can go wrong with formulas and their provers. -/
inductive Fault where
  /-- A connective was evaluated on the wrong number of operands. -/
  | operands
  /-- A connective was put over the blank formula. -/
  | blankOperand
  /-- A prover needed advice and has no predictor. -/
  | noPredictor
  /-- The predictor has not been trained. -/
  | untrained
  /-- There is no method of proof by that name. -/
  | unsupported
  deriving DecidableEq, Repr

namespace Formula

@[match_pattern] abbrev const (b : Bool) : Formula := .leaf (.truth b)
@[match_pattern] abbrev var (a : Atom) : Formula := .leaf (.atom a)
@[match_pattern] abbrev neg (x : Formula) : Formula := .unary .not x

@[match_pattern] abbrev imp (x y : Formula) : Formula := .binary .imp x y

instance : AndOp Formula := ⟨.binary .and⟩
instance : OrOp Formula := ⟨.binary .or⟩
instance : Complement Formula := ⟨.unary .not⟩

/-- The written form, fully parenthesised. -/
def text : Formula → String
  | .blank => "()"
  | .leaf l => l.text
  | .unary c x => "(" ++ c.sign ++ x.text ++ ")"
  | .binary c x y => "(" ++ x.text ++ " " ++ c.sign ++ " " ++ y.text ++ ")"

/-- The leaves from left to right. -/
def leaves : Formula → List Leaf
  | .blank => []
  | .leaf l => [l]
  | .unary _ x => x.leaves
  | .binary _ x y => x.leaves ++ y.leaves

/-- The distinct leaves in order of first appearance. -/
def components (f : Formula) : List Leaf := f.leaves.eraseDups

/-- The distinct atoms in order of first appearance. -/
def atoms (f : Formula) : List Atom :=
  f.components.filterMap fun
    | .atom a => some a
    | .truth _ => none

/-- The names of the atoms in order of first appearance. -/
def names (f : Formula) : List String := (f.atoms.map Atom.name).eraseDups

/-- Connectives and leaves, each connective before its operands. -/
def preorder : Formula → List String
  | .blank => []
  | .leaf l => [l.text]
  | .unary c x => c.sign :: x.preorder
  | .binary c x y => c.sign :: (x.preorder ++ y.preorder)

/-- Puts a connective over operands. A blank second operand counts as none, and over a blank first
operand nothing can be built. -/
def compose (c : Connective) : Formula → Option Formula → Except Fault Formula
  | .blank, _ => .error .blankOperand
  | x, none | x, some .blank => .ok (.unary c x)
  | x, some y => .ok (.binary c x y)

/-- The same tree over leaves of the same text. A blank formula equals nothing. -/
def same : Formula → Formula → Bool
  | .leaf l, .leaf m => l.text == m.text
  | .unary c x, .unary d y => c == d && x.same y
  | .binary c x y, .binary d z w => c == d && x.same z && y.same w
  | _, _ => false

def isLeaf : Formula → Bool
  | .leaf _ => true
  | _ => false

def isConstant : Formula → Bool
  | .const _ => true
  | _ => false

def isTrue : Formula → Bool
  | .const true => true
  | _ => false

def isFalse : Formula → Bool
  | .const false => true
  | _ => false

/-- Negation has one operand, the other connectives two, and nothing is blank. -/
def WellFormed : Formula → Prop
  | .blank => False
  | .leaf _ => True
  | .unary c x => c = .not ∧ x.WellFormed
  | .binary c x y => c ≠ .not ∧ x.WellFormed ∧ y.WellFormed

instance decidableWellFormed : (f : Formula) → Decidable f.WellFormed
  | .blank => Decidable.isFalse id
  | .leaf _ => Decidable.isTrue trivial
  | .unary c x =>
      have := decidableWellFormed x
      inferInstanceAs (Decidable (c = .not ∧ x.WellFormed))
  | .binary c x y =>
      have := decidableWellFormed x
      have := decidableWellFormed y
      inferInstanceAs (Decidable (c ≠ .not ∧ x.WellFormed ∧ y.WellFormed))

end Formula

end LogicTutor
