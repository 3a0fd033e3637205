import LogicTutor.Formula.Proposition
import LogicTutor.Semantics.Equivalence

/-! Which names a formula's value depends on. Leaves are told apart by their text alone: of two
leaves that read alike only the last is given values, and the other keeps what it had. -/
namespace LogicTutor

structure Usefulness where
  /-- What each text stands for. -/
  leaves : List (String × Leaf)
  useful : List String
  useless : List String
  tautology : Bool
  contradiction : Bool
  deriving Repr

namespace Usefulness

def total (u : Usefulness) : Nat := u.leaves.length

/-- The share of useful texts; nothing of nothing. -/
def ratio (u : Usefulness) : Rat :=
  if u.total = 0 then 0 else mkRat u.useful.length u.total

/-- Enters a leaf under its text. -/
def enter (table : List (String × Leaf)) (l : Leaf) : List (String × Leaf) :=
  match table with
  | [] => [(l.text, l)]
  | (t, m) :: rest => if t = l.text then (t, l) :: rest else (t, m) :: enter rest l

/-- Each text of the formula with the last leaf that reads so. -/
def leafTable (f : Formula) : List (String × Leaf) := f.leaves.foldl enter []

/-- The atom that a text stands for, if it is not a constant. -/
def atomOf (table : List (String × Leaf)) (t : String) : List Atom :=
  table.filterMap fun
    | (s, .atom a) => if s = t then some a else none
    | (_, .truth _) => none

def setAll (v : Valuation) (atoms : List Atom) (x : Bool) : Valuation :=
  atoms.foldl (fun w a => w.set a x) v

/-- Whether flipping the target changes nothing under the present values of the others. -/
def indifferent (f : Formula) (target : List Atom) (v : Valuation) :
    Except Fault (Bool × Valuation) := do
  let x ← f.value (setAll v target false)
  let w := setAll v target true
  let y ← f.value w
  return (x == y, w)

/-- Whether some assignment to the other texts makes the value depend on this one. -/
def isUseful (f : Formula) (table : List (String × Leaf)) (texts : List String) (target : String)
    (v : Valuation) : Except Fault (Bool × Valuation) := do
  let others := (texts.filter fun t => t ≠ target).map (atomOf table)
  let (same, w) ← v.forAll others (indifferent f (atomOf table target))
  return (!same, w)

/-- Sorts the texts into useful and useless ones. -/
def split (f : Formula) (table : List (String × Leaf)) (texts : List String) :
    List String → Valuation → Except Fault ((List String × List String) × Valuation)
  | [], v => .ok (([], []), v)
  | t :: ts, v => do
    let (useful, w) ← isUseful f table texts t v
    let ((yes, no), u) ← split f table texts ts w
    return (if useful then (t :: yes, no) else (yes, t :: no), u)

/-- The usefulness of each text in a formula. If no text matters, one evaluation tells a tautology
from a contradiction. -/
def ofFormula (f : Formula) (v : Valuation) : Except Fault (Usefulness × Valuation) := do
  let table := leafTable f
  if table.isEmpty then return (⟨[], [], [], false, false⟩, v)
  let texts := Semantics.sortNames (table.map (·.1))
  let ((useful, useless), w) ← split f table texts texts v
  if useless.length = texts.length then
    let u := setAll w (texts.flatMap (atomOf table)) false
    let x ← f.value u
    return (⟨table, useful, useless, x == some true, x != some true⟩, u)
  return (⟨table, useful, useless, false, false⟩, w)

/-- A leaf by itself is not analysed: it counts as useful, even if it is a constant. -/
def ofProposition (p : Proposition) (v : Valuation) : Except Fault (Usefulness × Valuation) :=
  match p with
  | .bare l => .ok (⟨[(l.text, l)], [l.text], [], false, false⟩, v)
  | .compound f => ofFormula f v

end Usefulness

end LogicTutor
