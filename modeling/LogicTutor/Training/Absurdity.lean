import LogicTutor.Training.Sample

/-! Courses on bringing a single formula down to falsehood. -/
namespace LogicTutor.Training

def absurdComplement : List SingleSample :=
  overLetters fun p =>
    let none1 := p &&& ~~~p
    lesson 50 [fall none1 .complement] ++
    lesson 50 [fall (~~~p &&& p) .complement] ++
    ((others [p]).flatMap fun q =>
      lesson 30 [fall (none1 &&& q) .complement] ++
      lesson 30 [fall (q &&& none1) .complement] ++
      lesson 25 [fall (none1 ||| q) .complement])

def falsehoodPropagation : List SingleSample :=
  overLetters fun p =>
    let f := falsehood
    lesson 40 [fall (p &&& f) .domination] ++
    lesson 40 [fall (f &&& p) .domination] ++
    ((others [p]).flatMap fun q =>
      lesson 20 [fall ((f &&& p) &&& q) .domination] ++
      lesson 20 [fall (p &&& (f &&& q)) .domination]) ++
    lesson 30 [fall (f ||| p) .identity] ++
    lesson 30 [fall (p ||| f) .identity]

def exposedComplement : List SingleSample :=
  overPairs fun p q =>
    let none1 := p &&& ~~~p
    lesson 40 [fall (p &&& (~~~p ||| q)) .distributivity] ++
    lesson 40 [fall ((~~~p ||| q) &&& p) .distributivity] ++
    lesson 40 [fall (p &&& (q ||| ~~~p)) .distributivity] ++
    lesson 50 [fall (none1 ||| (p &&& q)) .complement] ++
    lesson 40 [fall (none1 &&& q) .complement] ++
    lesson 30 [fall ((p &&& q) &&& ~~~p) .associativity] ++
    lesson 30 [fall (p &&& (q &&& ~~~p)) .commutativity]

def absurdDeMorgan : List SingleSample :=
  overPairs fun p q =>
    lesson 25 [fall (~~~(p ||| q)) .deMorgan] ++
    lesson 35 [fall (~~~(p ||| q) &&& p) .deMorgan] ++
    lesson 35 [fall ((~~~p &&& ~~~q) &&& p) .associativity] ++
    lesson 30 [fall (~~~p &&& (~~~q &&& p)) .commutativity] ++
    lesson 30 [fall (p &&& ~~~(p &&& q)) .deMorgan]

def absurdDoubleNegation : List SingleSample :=
  overLetters fun p =>
    let pp := ~~~(~~~p)
    lesson 30 [fall pp .doubleNegation] ++
    lesson 40 [fall (pp &&& ~~~p) .doubleNegation] ++
    ((others [p]).flatMap fun q => lesson 25 [fall (pp &&& q) .doubleNegation])

def absurdImplication : List SingleSample :=
  overPairs fun p q =>
    lesson 40 [fall (((p.imp q) &&& p) &&& ~~~q) .implicationElimination] ++
    lesson 35 [fall (((~~~p ||| q) &&& p) &&& ~~~q) .distributivity] ++
    lesson 30 [fall ((p &&& (p.imp q)) &&& ~~~q) .implicationElimination]

end LogicTutor.Training
