import LogicTutor.Training.Sample

/-! Courses on the laws of negation, conjunction and disjunction. -/
namespace LogicTutor.Training

def doubleNegation : List PairSample :=
  overLetters fun p =>
    lesson 20 [step (~~~(~~~p)) p .doubleNegation, back p (~~~(~~~p)) .doubleNegation] ++
    lesson 10 [step (~~~(~~~(~~~p))) (~~~p) .doubleNegation,
      back (~~~p) (~~~(~~~(~~~p))) .doubleNegation] ++
    ((others [p]).flatMap fun q => bothWays fun join =>
      lesson 5 [step (join (~~~(~~~p)) q) (join p q) .doubleNegation] ++
      lesson 5 [step (join q (~~~(~~~p))) (join q p) .doubleNegation]) ++
    ((others [p]).flatMap fun q => bothWays fun join =>
      lesson 5 [step (~~~(~~~(join p q))) (join p q) .doubleNegation])

def absorption : List PairSample :=
  overPairs fun p q =>
    let meet := p &&& (p ||| q)
    let joined := p ||| (p &&& q)
    lesson 15 [step meet p .absorption, back p meet .absorption] ++
    lesson 15 [step joined p .absorption, back p joined .absorption] ++
    lesson 10 [step (p &&& (q ||| p)) p .absorption] ++
    lesson 10 [step ((p ||| q) &&& p) p .absorption] ++
    ((others [p, q]).flatMap fun r => lesson 5 [step (meet ||| r) (p ||| r) .absorption])

def idempotence : List PairSample :=
  overLetters fun p =>
    lesson 20 [step (p &&& p) p .idempotence, back p (p &&& p) .idempotence] ++
    lesson 20 [step (p ||| p) p .idempotence, back p (p ||| p) .idempotence] ++
    ((others [p]).flatMap fun q =>
      lesson 5 [step ((p &&& p) ||| q) (p ||| q) .idempotence] ++
      lesson 5 [step ((p ||| p) &&& q) (p &&& q) .idempotence])

/-- A negated formula and what De Morgan makes of it, mostly forwards. -/
def deMorganOnce (p q : Formula) : List PairSample :=
  let nand := ~~~(p &&& q)
  let nor := ~~~(p ||| q)
  let some1 := ~~~p ||| ~~~q
  let all2 := ~~~p &&& ~~~q
  lesson 10 [step nand some1 .deMorgan, back some1 nand .deMorgan] ++
  [step some1 nand .deMorganReverse] ++
  lesson 10 [step nor all2 .deMorgan, back all2 nor .deMorgan] ++
  [step all2 nor .deMorganReverse]

/-- De Morgan on negated letters, and the double negations that it leaves. -/
def deMorganTwice (p q : Formula) : List PairSample :=
  let pp := ~~~(~~~p)
  let qq := ~~~(~~~q)
  let along := fun (start middle half final : Formula) =>
    lesson 25 [step start final .deMorgan, back final start .deMorgan,
      step start middle .deMorgan] ++
    lesson 15 [step middle final .doubleNegation, step middle half .doubleNegation,
      step half final .doubleNegation]
  along (~~~(~~~p ||| ~~~q)) (pp &&& qq) (pp &&& q) (p &&& q) ++
  along (~~~(~~~p &&& ~~~q)) (pp ||| qq) (pp ||| q) (p ||| q)

def deMorgan : List PairSample := overPairs deMorganOnce ++ overPairs deMorganTwice

def commutativity : List PairSample :=
  bothWays fun join => overPairs fun p q =>
    let a := join p q
    let b := join q p
    lesson 3 [step a b .commutativity, back a b .commutativity, step b a .commutativity,
      back b a .commutativity]

def multiStep : List PairSample :=
  let p := letter "p"
  let q := letter "q"
  let pp := ~~~(~~~p)
  let qq := ~~~(~~~q)
  lesson 15 [step (~~~(~~~p &&& ~~~q)) (p ||| q) .deMorgan,
    step (pp ||| qq) (p ||| q) .doubleNegation, step (p ||| qq) (p ||| q) .doubleNegation] ++
  lesson 15 [step (pp &&& qq) (p &&& q) .doubleNegation,
    step (p &&& qq) (p &&& q) .doubleNegation] ++
  lesson 20 [step (p &&& (p ||| q)) p .absorption] ++
  lesson 15 [step ((p &&& p) ||| q) (p ||| q) .idempotence] ++
  lesson 15 [step (~~~(~~~(p &&& q))) (p &&& q) .doubleNegation]

def preferSimplification : List PairSample :=
  let p := letter "p"
  let q := letter "q"
  lesson 30 [step (~~~(~~~p)) p .doubleNegation] ++
  lesson 30 [step (p &&& p) p .idempotence] ++
  lesson 30 [step (p &&& (p ||| q)) p .absorption] ++
  lesson 20 [step (~~~(~~~p) &&& q) (p &&& q) .doubleNegation] ++
  lesson 15 [step (~~~(p &&& q)) (~~~p ||| ~~~q) .deMorgan]

/-- Common factors of three letters. -/
def factoringPlain (p q r : Formula) : List PairSample :=
  let wide := (p &&& q) ||| (p &&& r)
  let tall := p &&& (q ||| r)
  let wide2 := (p ||| q) &&& (p ||| r)
  let tall2 := p ||| (q &&& r)
  lesson 15 [step wide tall .factoring, back tall wide .factoring] ++
  lesson 15 [step wide2 tall2 .factoring, back tall2 wide2 .factoring] ++
  lesson 10 [step ((q &&& p) ||| (r &&& p)) tall .factoring]

/-- Common factors that leave a complement behind. -/
def factoringComplement (p q : Formula) : List PairSample :=
  let along := fun (wide tall rest : Formula) =>
    lesson 30 [step wide p .factoring, back p wide .factoring, step wide tall .factoring,
      step tall rest .complement, step rest p .identity]
  let tall := p &&& (q ||| ~~~q)
  let reversed := (p &&& ~~~q) ||| (p &&& q)
  along ((p &&& q) ||| (p &&& ~~~q)) tall (p &&& truth) ++
  lesson 20 [step reversed p .factoring, step reversed tall .factoring] ++
  along ((p ||| q) &&& (p ||| ~~~q)) (p ||| (q &&& ~~~q)) (p ||| falsehood) ++
  lesson 20 [step ((q &&& p) ||| (~~~q &&& p)) p .factoring]

def factoring : List PairSample := overTriples factoringPlain ++ overPairs factoringComplement

end LogicTutor.Training
