import LogicTutor.Law.Basic

/-! Labelled examples from which predictors learn. A lesson is a list of examples, repeated as often
as it matters; a course runs its lessons over the letters p, q, r and s. -/
namespace LogicTutor

/-- On the way from the two formulas to a common one, this law is applied to this side. -/
structure PairSample where
  first : Formula
  second : Formula
  side : Int
  law : Law
  deriving DecidableEq, Repr

/-- On the way from the formula to the goal, this law is applied. -/
structure SingleSample where
  formula : Formula
  law : Law
  goal : String
  deriving DecidableEq, Repr

namespace Training

def letter (name : String) : Formula := .var ⟨0, 0, name⟩

def letters : List Formula := [letter "p", letter "q", letter "r", letter "s"]

/-- The letters that are not in the list. -/
def others (xs : List Formula) : List Formula := letters.filter fun l => !xs.contains l

/-- A lesson for each letter. -/
def overLetters {α : Type} (f : Formula → List α) : List α := letters.flatMap f

/-- A lesson for each ordered pair of letters. -/
def overPairs {α : Type} (f : Formula → Formula → List α) : List α :=
  letters.flatMap fun p => (others [p]).flatMap fun q => f p q

/-- A lesson for each ordered triple of letters. -/
def overTriples {α : Type} (f : Formula → Formula → Formula → List α) : List α :=
  overPairs fun p q => (others [p, q]).flatMap fun r => f p q r

/-- Both ways of joining two formulas: by conjunction and by disjunction. -/
def bothWays {α : Type} (f : (Formula → Formula → Formula) → List α) : List α :=
  f (· &&& ·) ++ f (· ||| ·)

def lesson {α : Type} (times : Nat) (xs : List α) : List α := (List.replicate times xs).flatten

/-- The first formula takes a step towards the second. -/
def step (a b : Formula) (law : Law) : PairSample := ⟨a, b, 1, law⟩

/-- The second formula takes a step towards the first. -/
def back (a b : Formula) (law : Law) : PairSample := ⟨a, b, 2, law⟩

/-- A step towards falsehood. -/
def fall (a : Formula) (law : Law) : SingleSample := ⟨a, law, "F"⟩

def truth : Formula := .const true

def falsehood : Formula := .const false

end Training

end LogicTutor
