import LogicTutor.Semantics.Equivalence
import LogicTutor.Text.Blank

/-! Truth tables of two formulas side by side. -/
namespace LogicTutor

/-- One assignment with the values it gives to the names, to the inner formulas of either side and
to the two sides themselves. -/
structure TruthRow where
  values : List (String × Bool)
  inner1 : List (String × Option Bool)
  inner2 : List (String × Option Bool)
  value1 : Option Bool
  value2 : Option Bool
  deriving Repr

structure TruthTable where
  columns : List String
  inner1 : List String
  inner2 : List String
  rows : List TruthRow
  deriving Repr

namespace TruthTable

/-- The name stands at the front, possibly after white space, and no ASCII letter or digit goes on
with it. -/
def startsWithName (name : List Char) : List Char → Bool
  | [] => name.isEmpty
  | c :: cs =>
    (name.isPrefixOf (c :: cs) &&
      match (c :: cs).drop name.length with
      | d :: _ => !d.isAlphanum
      | [] => true) ||
    (Text.isBlank c && startsWithName name cs)

/-- Somewhere in the text a negation sign stands before the name. -/
def negatesName (name : List Char) : List Char → Bool
  | [] => false
  | c :: cs =>
    ((c == '~' || c == '!' || c == '¬') && startsWithName name cs) || negatesName name cs

/-- The inner formulas with two operands, each with its depth, after those inside them. -/
def innerFormulas (depth : Nat) : Formula → List (Formula × Nat)
  | .blank | .leaf _ => []
  | .unary _ x => innerFormulas (depth + 1) x
  | .binary c x y =>
      innerFormulas (depth + 1) x ++ innerFormulas (depth + 1) y ++ [(.binary c x y, depth)]

/-- Keeps the first of the formulas that are written alike. -/
def distinctTexts (fs : List (Formula × Nat)) : List (Formula × Nat) :=
  fs.foldl (fun kept f => if kept.any fun k => k.1.text == f.1.text then kept else kept ++ [f]) []

/-- The proper inner formulas that get a column, deepest first. -/
def innerColumns (f : Formula) : List Formula :=
  (((distinctTexts (innerFormulas 0 f)).mergeSort fun a b => decide (b.2 ≤ a.2)).map
    (·.1)).filter fun g => g.text != f.text

/-- Names with, after each, a column for its negation if one of the texts negates it. -/
def nameColumns (negated : String → Bool) (names : List String) : List String :=
  names.flatMap fun n => if negated n then [n, "~" ++ n] else [n]

def setEntry {α : Type} (key : String) (x : α) : List (String × α) → List (String × α)
  | [] => [(key, x)]
  | (k, y) :: rest => if k = key then (k, x) :: rest else (k, y) :: setEntry key x rest

/-- The entries for the names, the `j`-th having the `j`-th binary digit of `i`. -/
def nameValues (negated : String → Bool) :
    List String → Nat → List (String × Bool) → List (String × Bool)
  | [], _, acc => acc
  | n :: ns, i, acc =>
    let b := i % 2 == 1
    let acc := setEntry n b acc
    nameValues negated ns (i / 2) (if negated n then setEntry ("~" ++ n) (!b) acc else acc)

def innerValues (v : Valuation) (fs : List Formula) : List (String × Option Bool) :=
  fs.map fun f => (f.text, f.eval? v)

/-- The rows numbered `i`, `i + 1`, ..., `k` of them; the groups are the atoms of each name. -/
def rowsFrom (f g : Formula) (groups : List (List Atom)) (negated : String → Bool)
    (names : List String) (inner1 inner2 : List Formula) :
    (k i : Nat) → Valuation → Except Fault (List TruthRow × Valuation)
  | 0, _, v => .ok ([], v)
  | k + 1, i, v => do
    let w := v.setBits groups i
    let row : TruthRow :=
      { values := nameValues negated names i []
        inner1 := innerValues w inner1
        inner2 := innerValues w inner2
        value1 := ← f.value w
        value2 := ← g.value w }
    let (rest, u) ← rowsFrom f g groups negated names inner1 inner2 k (i + 1) w
    return (row :: rest, u)

/-- The table of two formulas, with the values that its last row leaves behind. Without names
there is one row and no column. -/
def make (f : Formula) (d : Glossary) (g : Formula) (e : Glossary) (v : Valuation) :
    Except Fault (TruthTable × Valuation) := do
  let names := Semantics.sharedNames d e
  if names.isEmpty then
    let x ← f.value v
    let y ← g.value v
    return (⟨[], [], [], [⟨[], [], [], x, y⟩]⟩, v)
  let negated := fun n : String =>
    negatesName n.toList f.text.toList || negatesName n.toList g.text.toList
  let inner1 := innerColumns f
  let inner2 := innerColumns g
  let (rows, w) ← rowsFrom f g (Semantics.sharedGroups d e) negated names inner1 inner2
    (Nat.pow 2 names.length) 0 v
  return (⟨nameColumns negated names, inner1.map Formula.text, inner2.map Formula.text, rows⟩, w)

end TruthTable

end LogicTutor
