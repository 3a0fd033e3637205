import LogicTutor.Formula.Valuation

/-! A proposition as it is handed around: an atom or a constant by itself, or a compound with a
formula at its root. A compound may consist of a single leaf. -/
namespace LogicTutor

inductive Proposition where
  | bare (l : Leaf)
  | compound (f : Formula)
  deriving DecidableEq, Repr

namespace Proposition

/-- A leaf stays by itself; anything larger is a compound. -/
def ofFormula : Formula → Proposition
  | .leaf l => .bare l
  | f => .compound f

def formula : Proposition → Formula
  | .bare l => .leaf l
  | .compound f => f

end Proposition

/-- A compound with the list of the leaves it answers for. -/
structure Compound where
  formula : Formula
  components : List Leaf
  deriving DecidableEq, Repr

namespace Compound

/-- A compound around a formula, answering for all its leaves. -/
def ofFormula (f : Formula) : Compound := ⟨f, f.components⟩

/-- A proposition made into a compound. A constant wrapped up this way answers for nothing. -/
def wrap (f : Formula) : Compound :=
  match f with
  | .const _ => ⟨f, []⟩
  | f => ofFormula f

/-- What is shown before a compound is evaluated: the values of its components, the formula, and
an announcement. -/
def calculusLines (v : Valuation) (c : Compound) : List String × List String :=
  (c.components.map fun l =>
      l.text ++ " is " ++ (match l with
        | .atom a => if v.get a then "True" else "False"
        | .truth b => if b then "True" else "False"),
    ["", c.formula.text, "", "", "Solving the proposition...", ""])

end Compound

end LogicTutor
