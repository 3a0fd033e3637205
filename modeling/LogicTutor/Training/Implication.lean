import LogicTutor.Training.Sample

/-! Courses on implications and on the tautologies that are made of them. -/
namespace LogicTutor.Training

/-- Implications unfolded, folded and contraposed, alone, negated and nested. -/
def implicationForms (p q : Formula) : List PairSample :=
  let impl := p.imp q
  let disj := ~~~p ||| q
  let contra := (~~~q).imp (~~~p)
  let goal := p &&& ~~~q
  let nested := ~~~(~~~p) &&& ~~~q
  lesson 15 [step impl disj .implicationElimination, back disj impl .implicationElimination] ++
  lesson 5 [step disj impl .implicationIntroduction, back impl disj .implicationIntroduction] ++
  lesson 8 [step impl contra .contraposition, back contra impl .contraposition] ++
  lesson 25 [step (~~~impl) goal .implicationElimination,
    back goal (~~~impl) .implicationElimination,
    step (~~~impl) (~~~disj) .implicationElimination] ++
  lesson 20 [step (~~~disj) goal .deMorgan, step (~~~disj) nested .deMorgan,
    step nested goal .doubleNegation] ++
  ((others [p, q]).flatMap fun r =>
    lesson 10 [step (p.imp (q.imp r)) (~~~p ||| (~~~q ||| r)) .implicationElimination] ++
    lesson 10 [step (impl.imp r) (~~~impl ||| r) .implicationElimination])

/-- Tautologies whose proof begins with an implication. -/
def implicationTautologies (p q r : Formula) : List PairSample :=
  let first := fun (f : Formula) => [step f truth .implicationElimination]
  lesson 20 (first ((p.imp (q.imp r)).imp ((p.imp q).imp (p.imp r)))) ++
  lesson 20 (first (((p.imp q) &&& p).imp q)) ++
  lesson 20 (first (((p.imp q) &&& ~~~q).imp (~~~p))) ++
  lesson 20 (first (((p.imp q) &&& (q.imp r)).imp (p.imp r))) ++
  lesson 15 (first (p.imp p)) ++
  lesson 15 (first (p.imp (p ||| q))) ++
  lesson 15 (first ((p &&& q).imp p))

/-- Where distributing brings a letter and its negation together. -/
def implicationDistributed (p q : Formula) : List PairSample :=
  let rest := p &&& ~~~q
  let spread := (q ||| p) &&& (q ||| ~~~q)
  let near := rest ||| ~~~p
  lesson 20 [step (q ||| rest) (q ||| p) .distributivity,
    step (q ||| rest) spread .distributivity, step spread (q ||| p) .complement] ++
  lesson 20 [step (rest ||| q) (q ||| p) .distributivity] ++
  lesson 20 [step (p ||| (~~~p &&& q)) (p ||| q) .distributivity] ++
  lesson 20 [step ((~~~p &&& q) ||| p) (p ||| q) .distributivity] ++
  lesson 15 [step near (~~~q ||| ~~~p) .distributivity] ++
  lesson 25 [step (near ||| q) truth .distributivity] ++
  lesson 25 [step ((~~~p ||| q) ||| rest) truth .distributivity]

/-- The whole way of proving that modus ponens is a tautology. -/
def modusPonens (p q : Formula) : List PairSample :=
  let impl := p.imp q
  let unfolded := ~~~(~~~p ||| q)
  let doubled := ~~~(~~~p) &&& ~~~q
  let goal := p &&& ~~~q
  let step1 := ~~~(impl &&& p) ||| q
  let step2 := (~~~impl ||| ~~~p) ||| q
  let step2b := (unfolded ||| ~~~p) ||| q
  let step3 := (doubled ||| ~~~p) ||| q
  let step4 := (goal ||| ~~~p) ||| q
  let step5 := (~~~q ||| ~~~p) ||| q
  lesson 30 [step step1 truth .deMorgan, step step1 step2 .deMorgan] ++
  lesson 40 [step step3 truth .doubleNegation, step step3 step4 .doubleNegation,
    step doubled goal .doubleNegation] ++
  lesson 30 [step step4 truth .distributivity, step step4 step5 .distributivity] ++
  lesson 25 [step step5 truth .complement, step (~~~p ||| truth) truth .domination] ++
  lesson 25 [step (~~~impl) goal .implicationElimination, step unfolded doubled .deMorgan,
    step unfolded goal .deMorgan, step step2 truth .implicationElimination] ++
  lesson 40 [step step2b truth .deMorgan, step step2b step3 .deMorgan] ++
  lesson 40 [step ((~~~p ||| ~~~q) ||| q) truth .complement,
    step (~~~p ||| (~~~q ||| q)) truth .complement] ++
  lesson 40 [step (q ||| (~~~p ||| ~~~q)) truth .complement] ++
  lesson 40 [step step5 truth .complement] ++
  lesson 40 [step (q ||| (~~~q ||| ~~~p)) truth .complement]

/-- Regrouping that brings a letter and its negation together. -/
def implicationRegrouped (p q : Formula) : List PairSample :=
  let left := (~~~p ||| ~~~q) ||| q
  let right := ~~~p ||| (~~~q ||| q)
  lesson 40 [step left truth .associativity, step left right .associativity] ++
  lesson 30 [step right truth .complement] ++
  lesson 40 [step ((~~~q ||| ~~~p) ||| q) truth .associativity] ++
  lesson 30 [step (q ||| (~~~p ||| ~~~q)) truth .commutativity] ++
  ((others [p, q]).flatMap fun r => bothWays fun join =>
    lesson 15 [step (join (join p q) r) (join p (join q r)) .associativity,
      back (join p (join q r)) (join (join p q) r) .associativity])

def implication : List PairSample :=
  overPairs implicationForms ++ overTriples implicationTautologies ++
  overPairs implicationDistributed ++ overPairs modusPonens ++ overPairs implicationRegrouped

/-- Implications that are to stay unfolded once they have been. -/
def antiOscillation : List PairSample :=
  overTriples fun p q r =>
    let pq := p.imp q
    let qr := q.imp r
    let open1 := ~~~p ||| q
    let open2 := ~~~q ||| r
    let goal := open1 &&& open2
    lesson 50 [step (open1 &&& qr) goal .implicationElimination] ++
    lesson 50 [step (pq &&& open2) goal .implicationElimination] ++
    lesson 30 [step ((~~~p ||| ~~~q) &&& r) ((~~~p ||| ~~~q) &&& r) .commutativity] ++
    lesson 40 [step (pq &&& qr) goal .implicationElimination] ++
    lesson 40 [step (p &&& qr) (p &&& open2) .implicationElimination,
      step (p &&& open2) (p &&& open2) .commutativity] ++
    lesson 40 [step (p ||| qr) (p ||| open2) .implicationElimination]

end LogicTutor.Training
