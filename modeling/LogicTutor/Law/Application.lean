import LogicTutor.Chance
import LogicTutor.Formula.Proposition
import LogicTutor.Law.Position

/-! A compound changed step by step, at a position given or drawn. -/
namespace LogicTutor

namespace Law

/-- The position that a drawn number picks, of those where the law applies. -/
def pick? (law : Law) (f : Formula) (draw : Nat) : Option Path :=
  let ps := law.positions f
  ps[draw % ps.length]?

/-- The part of the formula that a step at this path shows: nothing if it is the whole. -/
def shownAt (f : Formula) : Path → Option String
  | [] => none
  | p => (f.subformula? p).map Formula.text

end Law

namespace Compound

/-- Applies the law at the end of the path. -/
def applyAt (law : Law) (c : Compound) (p : Path) : Compound :=
  ofFormula (law.applyAt c.formula p)

/-- Applies the law where a draw decides, and tells what was there. At the root the result is
wrapped up as a proposition; where the law applies nowhere nothing is drawn. -/
def applyDrawn {γ : Type} [Source γ] (law : Law) (c : Compound) (g : γ) :
    Compound × Option String × γ :=
  if (law.positions c.formula).isEmpty then (c, none, g)
  else
    let (n, g) := Source.draw g
    match law.pick? c.formula n with
    | none => (c, none, g)
    | some [] => (wrap (law.apply c.formula), none, g)
    | some p => (applyAt law c p, Law.shownAt c.formula p, g)

end Compound

end LogicTutor
