import LogicTutor.Formula.Basic

/-! The atoms that a text speaks of. A name gets an atom where it is first read, and from then on it
stands for that atom. -/
namespace LogicTutor

/-- Atoms of one text under their names, in the order in which they were made. -/
structure Glossary where
  reading : Nat
  entries : List (String × Atom)
  /-- How many atoms have been made. -/
  made : Nat
  deriving DecidableEq, Repr

namespace Glossary

def empty (reading : Nat) : Glossary := ⟨reading, [], 0⟩

def names (d : Glossary) : List String := d.entries.map (·.1)

def find? (d : Glossary) (name : String) : Option Atom := d.entries.lookup name

/-- The atom under a name. If there is none yet, a new one is made and entered. -/
def resolve (d : Glossary) (name : String) : Atom × Glossary :=
  match d.find? name with
  | some a => (a, d)
  | none =>
    let a : Atom := ⟨d.reading, d.made, name⟩
    (a, { d with entries := d.entries ++ [(name, a)], made := d.made + 1 })

end Glossary

end LogicTutor
