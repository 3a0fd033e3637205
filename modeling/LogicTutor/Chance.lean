/-! Random draws. What is drawn from is a plain value: a draw gives a number and what to draw from
next, so that every use of chance can be replayed. -/
namespace LogicTutor

/-- What numbers are drawn from; nothing is known of the numbers. -/
class Source (σ : Type) where
  draw : σ → Nat × σ

namespace Source

variable {σ : Type} [Source σ]

/-- Exchanges each place `i`, ..., 1 with a drawn place not above it. -/
def shuffleFrom {α : Type} : Nat → Array α → σ → Array α × σ
  | 0, xs, s => (xs, s)
  | i + 1, xs, s =>
    let (n, s) := draw s
    shuffleFrom i (xs.swapIfInBounds (i + 1) (n % (i + 2))) s

def shuffle {α : Type} (xs : List α) (s : σ) : List α × σ :=
  let (ys, s) := shuffleFrom (xs.length - 1) xs.toArray s
  (ys.toList, s)

/-- As many numbers below `n` as `k` says. -/
def indices (n : Nat) : Nat → σ → List Nat × σ
  | 0, s => ([], s)
  | k + 1, s =>
    let (i, s) := draw s
    let (is, s) := indices n k s
    (i % n :: is, s)

end Source

/-- A linear congruential generator on 64-bit words. -/
structure Chance where
  state : UInt64
  deriving DecidableEq, Repr, Inhabited

namespace Chance

def ofSeed (seed : Int) : Chance := ⟨(seed % (Nat.pow 2 64 : Nat)).toNat.toUInt64⟩

/-- A number below 2^31. -/
def next (g : Chance) : Nat × Chance :=
  let s := g.state * 6364136223846793005 + 1442695040888963407
  ((s >>> 33).toNat, ⟨s⟩)

instance : Source Chance := ⟨next⟩

end Chance

end LogicTutor
