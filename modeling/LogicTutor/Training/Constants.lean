import LogicTutor.Training.Sample

/-! Courses on constants and on the complements that become constants. -/
namespace LogicTutor.Training

/-- Complements inside of two-letter formulas. -/
def complementInside (p q : Formula) : List PairSample :=
  let sure := p ||| ~~~p
  let none1 := p &&& ~~~p
  let outer := (sure &&& q) ||| ~~~q
  let after := (truth &&& q) ||| ~~~q
  let rest := ~~~p ||| ~~~q
  let full := ((~~~p ||| p) &&& rest) ||| q
  let reduced := (truth &&& rest) ||| q
  lesson 40 [step outer truth .complement, step outer after .complement,
    step after (q ||| ~~~q) .identity, step (q ||| ~~~q) truth .complement] ++
  lesson 40 [step ((q &&& sure) ||| ~~~q) truth .complement] ++
  lesson 40 [step (q ||| (sure &&& ~~~q)) truth .complement] ++
  lesson 50 [step full truth .complement, step full reduced .complement,
    step reduced (rest ||| q) .identity, step reduced truth .identity] ++
  lesson 50 [step ((sure &&& rest) ||| q) truth .complement] ++
  lesson 40 [step (none1 ||| q) q .complement] ++
  lesson 40 [step (q ||| none1) q .complement] ++
  lesson 40 [step (none1 &&& q) falsehood .complement] ++
  lesson 40 [step (q &&& none1) falsehood .complement] ++
  lesson 40 [step (q ||| sure) truth .complement] ++
  lesson 40 [step (sure ||| q) truth .complement] ++
  ((others [p, q]).flatMap fun r =>
    lesson 30 [step (((~~~p ||| p) &&& (~~~q ||| r)) ||| q) truth .complement])

def nestedComplement : List PairSample := overPairs complementInside

/-- The laws of constants for one letter. -/
def constantLaws (p : Formula) : List PairSample :=
  let t := truth
  let f := falsehood
  lesson 25 [step (p ||| ~~~p) t .complement, back t (p ||| ~~~p) .complement] ++
  lesson 25 [step (~~~p ||| p) t .complement] ++
  lesson 25 [step (p &&& ~~~p) f .complement, back f (p &&& ~~~p) .complement] ++
  lesson 25 [step (~~~p &&& p) f .complement] ++
  lesson 20 [step (p ||| f) p .identity, back p (p ||| f) .identity] ++
  lesson 20 [step (f ||| p) p .identity] ++
  lesson 20 [step (p &&& t) p .identity, back p (p &&& t) .identity] ++
  lesson 20 [step (t &&& p) p .identity] ++
  lesson 20 [step (p ||| t) t .domination, back t (p ||| t) .domination] ++
  lesson 20 [step (t ||| p) t .domination] ++
  lesson 20 [step (p &&& f) f .domination, back f (p &&& f) .domination] ++
  lesson 20 [step (f &&& p) f .domination] ++
  lesson 15 [step (t.imp p) p .implicationConstant, back p (t.imp p) .implicationConstant] ++
  lesson 15 [step (f.imp p) t .implicationConstant] ++
  lesson 15 [step (p.imp t) t .implicationConstant] ++
  lesson 15 [step (p.imp f) (~~~p) .implicationConstant]

def truthConstant : List PairSample :=
  let t := truth
  let f := falsehood
  overLetters constantLaws ++
  lesson 15 [step (~~~t) f .negationConstant, back f (~~~t) .negationConstant] ++
  lesson 15 [step (~~~f) t .negationConstant, back t (~~~f) .negationConstant] ++
  lesson 10 [step (~~~(~~~t)) t .doubleNegation] ++
  lesson 10 [step (~~~(~~~f)) f .doubleNegation]

/-- Regrouping for its own sake and for the complements it uncovers. -/
def regrouping (p q : Formula) : List PairSample :=
  let none1 := p &&& ~~~p
  let left1 := (~~~p ||| ~~~q) ||| q
  let right1 := ~~~p ||| (~~~q ||| q)
  let left2 := (~~~q ||| ~~~p) ||| p
  let right2 := ~~~q ||| (~~~p ||| p)
  lesson 50 [step left1 truth .associativity, step left1 right1 .associativity] ++
  lesson 50 [step left2 truth .associativity, step left2 right2 .associativity] ++
  lesson 30 [step (p ||| (~~~p ||| q)) truth .complement] ++
  lesson 40 [step ((p ||| ~~~p) ||| q) truth .complement] ++
  lesson 40 [step (none1 &&& q) falsehood .complement] ++
  lesson 30 [step (q ||| (~~~q ||| p)) truth .complement] ++
  lesson 30 [step ((q ||| ~~~q) ||| p) truth .complement] ++
  ((others [p, q]).flatMap fun r =>
    lesson 30 [step (((~~~p ||| q) ||| ~~~q) ||| r) truth .associativity] ++
    lesson 30 [step ((p ||| (q ||| ~~~q)) ||| r) truth .complement] ++
    lesson 20 [step ((p ||| q) ||| r) (p ||| (q ||| r)) .associativity,
      back (p ||| (q ||| r)) ((p ||| q) ||| r) .associativity] ++
    lesson 20 [step ((p &&& q) &&& r) (p &&& (q &&& r)) .associativity,
      back (p &&& (q &&& r)) ((p &&& q) &&& r) .associativity] ++
    lesson 40 [step right1 truth .complement, step right1 (~~~p ||| truth) .complement,
      step (~~~p ||| truth) truth .domination] ++
    lesson 40 [step ((p ||| q) ||| ~~~q) truth .associativity,
      step ((p ||| q) ||| ~~~q) (p ||| (q ||| ~~~q)) .associativity])

def associativity : List PairSample := overPairs regrouping

end LogicTutor.Training
