import LogicTutor.Formula.Basic
import LogicTutor.Law.Application

/-! Where a prover's decisions come from. A prover draws numbers and asks for advice; what answers
is any state with these operations, so nothing a prover guarantees depends on who advises it. -/
namespace LogicTutor

structure Advisor (σ : Type) where
  /-- A number at random. -/
  draw : σ → Nat × σ
  /-- Which of two formulas to change and by which law. The side 1 is the first formula and any
  other number the second; the name need not be that of a law. -/
  pair : σ → Formula → Formula → Except Fault ((Int × String) × σ)
  /-- By which law to bring a single formula closer to the goal, if anybody can tell. -/
  single? : Option (σ → Formula → String → Except Fault (String × σ))

namespace Advisor

variable {σ : Type}

/-- The same advisor, silent about single formulas. -/
def pairOnly (A : Advisor σ) : Advisor σ := { A with single? := none }

/-- One of the items, drawn; nothing is drawn of none. -/
def choose {α : Type} (A : Advisor σ) (xs : List α) (s : σ) : Option α × σ :=
  match xs with
  | [] => (none, s)
  | x :: xs =>
    let (n, s) := A.draw s
    ((x :: xs)[n % (xs.length + 1)]?, s)

end Advisor

/-- A change of one formula: the law, the formula after it, and the part that it replaced if that
was not the whole. -/
structure Move where
  side : Int
  law : Law
  result : Formula
  matched : Option String
  deriving DecidableEq, Repr

namespace Move

variable {σ : Type}

/-- Applies a law at a drawn one of the positions where it applies. -/
def drawn (A : Advisor σ) (side : Int) (law : Law) (f : Formula) (s : σ) : Move × σ :=
  match A.choose (law.positions f) s with
  | (none, s) => (⟨side, law, f, none⟩, s)
  | (some p, s) => (⟨side, law, law.applyAt f p, Law.shownAt f p⟩, s)

/-- A law with one of the formulas that it applies to. -/
structure Candidate where
  law : Law
  side : Int
  formula : Formula
  deriving DecidableEq, Repr

/-- The laws in order, each with the sides it applies to. -/
def candidates (laws : List Law) (sides : List (Int × Formula)) : List Candidate :=
  laws.flatMap fun law =>
    (sides.filter fun x => law.appliesInside x.2).map fun x => ⟨law, x.1, x.2⟩

def ofCandidate (A : Advisor σ) (c : Candidate) (s : σ) : Move × σ :=
  drawn A c.side c.law c.formula s

/-- Laws that make a formula simpler. -/
def simplifying : List Law :=
  [.doubleNegation, .idempotence, .absorption, .factoring, .identity, .domination,
   .negationConstant, .complement, .implicationConstant, .implicationElimination]

/-- Laws that rearrange a formula. -/
def rearranging : List Law := [.deMorgan, .commutativity, .associativity, .contraposition]

/-- Laws that make a formula larger. -/
def expanding : List Law := [.deMorganReverse, .distributivity, .implicationIntroduction]

/-- A draw that comes up once in ten times. -/
def isRare (n : Nat) : Bool := 10 * n < Nat.pow 2 31

/-- The move without advice: the first simplification there is, else any rearrangement, else, once
in ten times, any expansion. -/
def unadvised (A : Advisor σ) (sides : List (Int × Formula)) (s : σ) : Option Move × σ :=
  match candidates simplifying sides with
  | c :: _ =>
    let (m, s) := ofCandidate A c s
    (some m, s)
  | [] =>
    match A.choose (candidates rearranging sides) s with
    | (some c, s) =>
      let (m, s) := ofCandidate A c s
      (some m, s)
    | (none, s) =>
      let (n, s) := A.draw s
      if isRare n then
        match A.choose (candidates expanding sides) s with
        | (some c, s) =>
          let (m, s) := ofCandidate A c s
          (some m, s)
        | (none, s) => (none, s)
      else (none, s)

/-- The move that the advice names, if it is a law that applies to the side it names. -/
def advised (A : Advisor σ) (side : Int) (name : String) (f : Formula) (s : σ) :
    Option (Move × σ) :=
  match Law.ofName? name with
  | some law => if law.appliesInside f then some (drawn A side law f s) else none
  | none => none

end Move

end LogicTutor
