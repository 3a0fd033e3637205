import LogicTutor.Formula.Glossary
import LogicTutor.Formula.Valuation

/-! Two formulas compared on all assignments to the names in their glossaries. Atoms that share a
name get one value, also across the two formulas. -/
namespace LogicTutor.Semantics

/-- Names without repetitions, in order. -/
def sortNames (names : List String) : List String :=
  names.eraseDups.mergeSort fun a b => decide (a ≤ b)

/-- The atoms that stand under each of the names. -/
def groups (names : List String) (ds : List Glossary) : List (List Atom) :=
  names.map fun n => ds.filterMap fun d => d.find? n

/-- The names that two formulas are compared on; those that read like a constant are left out. -/
def sharedNames (d e : Glossary) : List String :=
  sortNames ((d.names ++ e.names).filter fun n => n ≠ "T" ∧ n ≠ "F")

def sharedGroups (d e : Glossary) : List (List Atom) := groups (sharedNames d e) [d, e]

/-- Whether the formula's value passes the test under all assignments to its own names. -/
def always (test : Option Bool → Bool) (g : Formula) (e : Glossary) (v : Valuation) :
    Except Fault (Bool × Valuation) :=
  v.forAll (groups (sortNames e.names) [e]) fun w => do
    return (test (← g.value w), w)

/-- Whether two formulas have the same value under all assignments to their names, with the values
that the last assignment tried leaves behind. -/
def agree (f : Formula) (d : Glossary) (g : Formula) (e : Glossary) (v : Valuation) :
    Except Fault (Bool × Valuation) :=
  v.forAll (sharedGroups d e) fun w => do
    let x ← f.value w
    let y ← g.value w
    return (x == y, w)

/-- As `agree`, but against a constant only the other formula is evaluated. -/
def agreeShort (f : Formula) (d : Glossary) (g : Formula) (e : Glossary) (v : Valuation) :
    Except Fault (Bool × Valuation) :=
  match f, g with
  | .const true, .const true | .const false, .const false => .ok (true, v)
  | .const true, g => always (fun x => x == some true) g e v
  | .const false, g => always (fun x => x != some true) g e v
  | f, g => agree f d g e v

end LogicTutor.Semantics
