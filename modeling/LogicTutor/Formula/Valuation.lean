import LogicTutor.Formula.Basic

/-! Truth values of atoms and of formulas. An atom that was never given a value is false. -/
namespace LogicTutor

structure Valuation where
  entries : List (Atom × Bool)
  deriving Repr

namespace Valuation

/-- All atoms are false. -/
def initial : Valuation := ⟨[]⟩

def lookup (a : Atom) : List (Atom × Bool) → Bool
  | [] => false
  | (b, x) :: rest => if b = a then x else lookup a rest

def store (a : Atom) (x : Bool) : List (Atom × Bool) → List (Atom × Bool)
  | [] => [(a, x)]
  | (b, y) :: rest => if b = a then (b, x) :: rest else (b, y) :: store a x rest

def get (v : Valuation) (a : Atom) : Bool := lookup a v.entries

def set (v : Valuation) (a : Atom) (x : Bool) : Valuation := ⟨store a x v.entries⟩

theorem lookup_store (a b : Atom) (x : Bool) (es : List (Atom × Bool)) :
    lookup b (store a x es) = if a = b then x else lookup b es := by
  induction es with
  | nil => simp [store, lookup]
  | cons e es ih =>
    obtain ⟨c, y⟩ := e
    by_cases hc : c = a
    · by_cases hb : a = b <;> simp [store, lookup, hc, hb]
    · by_cases hb : a = b
      · subst hb
        simp [store, lookup, hc, ih]
      · simp [store, lookup, hc, ih, hb]

@[simp] theorem get_set (v : Valuation) (a b : Atom) (x : Bool) :
    (v.set a x).get b = if a = b then x else v.get b := lookup_store a b x v.entries

/-- Gives the atoms of the `j`-th group the `j`-th binary digit of `i`. -/
def setBits (v : Valuation) : List (List Atom) → Nat → Valuation
  | [], _ => v
  | group :: rest, i => setBits (group.foldl (fun w a => w.set a (i % 2 == 1)) v) rest (i / 2)

/-- Runs through the assignments numbered `i`, `i + 1`, ..., `k` of them, while they pass the
test; each starts from the values that the one before left behind. -/
def passAll {ε : Type} (groups : List (List Atom))
    (test : Valuation → Except ε (Bool × Valuation)) :
    (k i : Nat) → Valuation → Except ε (Bool × Valuation)
  | 0, _, v => .ok (true, v)
  | k + 1, i, v =>
    match test (v.setBits groups i) with
    | .error e => .error e
    | .ok (false, w) => .ok (false, w)
    | .ok (true, w) => passAll groups test k (i + 1) w

/-- Whether every assignment to the groups passes the test, with the values left behind. -/
def forAll {ε : Type} (groups : List (List Atom))
    (test : Valuation → Except ε (Bool × Valuation)) (v : Valuation) :
    Except ε (Bool × Valuation) :=
  passAll groups test (Nat.pow 2 groups.length) 0 v

end Valuation

namespace Connective

def apply1? : Connective → Bool → Option Bool
  | .not, x => some !x
  | _, _ => none

def apply2? : Connective → Bool → Bool → Option Bool
  | .or, x, y => some (x || y)
  | .and, x, y => some (x && y)
  | .imp, x, y => some (!x || y)
  | .not, _, _ => none

end Connective

namespace Formula

/-- The value of a formula, if every connective in it has its number of operands. -/
def eval? (v : Valuation) : Formula → Option Bool
  | .blank => none
  | .leaf (.atom a) => some (v.get a)
  | .leaf (.truth b) => some b
  | .unary c x => (x.eval? v).bind c.apply1?
  | .binary c x y => (x.eval? v).bind fun a => (y.eval? v).bind fun b => c.apply2? a b

/-- The value of a formula; the blank one has none. -/
def value (v : Valuation) : Formula → Except Fault (Option Bool)
  | .blank => .ok none
  | f => match f.eval? v with
    | some b => .ok (some b)
    | none => .error .operands

/-- The value under a valuation of names; a misplaced connective counts as false. -/
def holds (v : String → Bool) : Formula → Bool
  | .blank => false
  | .leaf (.atom a) => v a.name
  | .leaf (.truth b) => b
  | .unary .not x => !x.holds v
  | .unary _ _ => false
  | .binary .or x y => x.holds v || y.holds v
  | .binary .and x y => x.holds v && y.holds v
  | .binary .imp x y => !x.holds v || y.holds v
  | .binary .not _ _ => false

/-- The same value under every valuation of names. -/
def Equivalent (f g : Formula) : Prop := ∀ v, f.holds v = g.holds v

end Formula

end LogicTutor
