import LogicTutor.Prover.Predictor
import LogicTutor.Training.Absurdity
import LogicTutor.Training.Constants
import LogicTutor.Training.Implication
import LogicTutor.Training.Transformation

/-! Training sets: rows of features with the numbers of their classes. -/
namespace LogicTutor.Training

/-- A course with its name and what is announced before it. -/
structure Course (α : Type) where
  name : String
  announcement : String
  samples : List α

def pairCourses : List (Course PairSample) :=
  [⟨"double_negation", "Generating double negation samples (high priority)...", doubleNegation⟩,
   ⟨"absorption", "Generating absorption samples (high priority)...", absorption⟩,
   ⟨"idempotence", "Generating idempotence samples (high priority)...", idempotence⟩,
   ⟨"de_morgan", "Generating De Morgan samples...", deMorgan⟩,
   ⟨"commutativity", "Generating commutativity samples...", commutativity⟩,
   ⟨"implication", "Generating implication samples...", implication⟩,
   ⟨"multi_step_simplification_proofs", "Generating multi-step simplification proofs...",
    multiStep⟩,
   ⟨"associativity", "Generating associativity samples...", associativity⟩,
   ⟨"anti_oscillation", "Generating anti-oscillation samples...", antiOscillation⟩,
   ⟨"prefer_simplification", "Generating prefer-simplification samples...",
    preferSimplification⟩,
   ⟨"factoring", "Generating factoring samples (reverse distributivity)...", factoring⟩,
   ⟨"truth_constant", "Generating truth constant samples...", truthConstant⟩,
   ⟨"nested_complement", "Generating nested complement samples (critical for Modus Ponens)...",
    nestedComplement⟩]

def singleCourses : List (Course SingleSample) :=
  [⟨"absurdity_complement", "Generating complement samples...", absurdComplement⟩,
   ⟨"f_propagation", "Generating F propagation samples...", falsehoodPropagation⟩,
   ⟨"expose_complement", "Generating expose complement samples...", exposedComplement⟩,
   ⟨"absurdity_demorgan", "Generating De Morgan samples...", absurdDeMorgan⟩,
   ⟨"double_negation_simplification", "Generating double negation samples...",
    absurdDoubleNegation⟩,
   ⟨"implication_absurdity", "Generating implication samples...", absurdImplication⟩]

variable {σ : Type} [Source σ]

/-- Every `n`-th of the items, from the first on. -/
def thin {α : Type} (n : Nat) (xs : List α) : List α :=
  (xs.zipIdx.filter fun x => x.2 % n = 0).map (·.1)

/-- A row with its class. -/
abbrev Labelled := List Rat × Nat

def labelPair (s : PairSample) : Option Labelled :=
  match Feature.pairRow (.compound s.first) (.compound s.second) .initial with
  | .ok (row, _) => some (row, pairClass s.side s.law.name)
  | .error _ => none

def labelSingle (s : SingleSample) : Option Labelled :=
  match Feature.singleRow (.compound s.formula) s.goal .initial with
  | .ok (row, _) => some (row, singleClass s.law.name)
  | .error _ => none

/-- Shuffles the rows and keeps the first `limit` of them. -/
def select (limit : Nat) (rows : List Labelled) (g : σ) : List Labelled :=
  (Source.shuffle rows g).1.take limit

/-- How often each class occurs, by class. -/
def distribution (rows : List Labelled) : List (Nat × Nat) :=
  ((rows.map (·.2)).eraseDups.mergeSort fun a b => decide (a ≤ b)).map fun c =>
    (c, (rows.map (·.2)).count c)

/-- What is said about a training set. -/
def summary (mark : String) (className : Nat → String) (rows : List Labelled) : String :=
  (distribution rows).foldl
    (fun acc d => acc ++ s!"  {d.1}: {className d.1}: {d.2}\n")
    (s!"{mark}Generated {rows.length} samples\n" ++ s!"{mark}Class distribution:\n")

def announcements {α : Type} (mark : String) (courses : List (Course α)) : String :=
  courses.foldl (fun acc c => acc ++ mark ++ c.announcement ++ "\n") ""

def pairClassName (n : Nat) : String :=
  let m := pairMove n
  s!"prop{m.1} {m.2.name}"

/-- The training set for pairs from every `every`-th sample of each course, and what is said while
it is made. -/
def pairDataset (every limit : Nat) (g : σ) : List Labelled × String :=
  let samples := pairCourses.flatMap fun c => thin every c.samples
  let rows := select limit (samples.filterMap labelPair) g
  (rows, announcements "" pairCourses ++ summary "" pairClassName rows)

def singleDataset (every limit : Nat) (g : σ) : List Labelled × String :=
  let mark := "[SimplificationPredictor] "
  let samples := singleCourses.flatMap fun c => thin every c.samples
  let rows := select limit (samples.filterMap labelSingle) g
  (rows, announcements mark singleCourses ++ summary mark (fun n => (singleMove n).name) rows)

section Balance

variable {α : Type}

/-- The entries of a list where the mask says so. -/
def masked (mask : List Bool) (xs : List α) : List α := ((xs.zip mask).filter (·.2)).map (·.1)

/-- The entries of a list at these places. -/
def entriesAt (xs : List α) (places : List Nat) : List α := places.filterMap fun i => xs[i]?

/-- The rows and the labels of one class. A class of less than `target` members is brought to that
number by drawing some of them again. -/
def oversample (target : Nat) (rows : List α) (labels : List Int) (c : Int) (s : σ) :
    (List α × List Int) × σ :=
  let mask := labels.map (· == c)
  let classRows := masked mask rows
  let classLabels := masked mask labels
  if classLabels.length < target then
    let (drawn, s) := Source.indices classLabels.length (target - classLabels.length) s
    ((classRows ++ entriesAt classRows drawn, classLabels ++ entriesAt classLabels drawn), s)
  else ((classRows, classLabels), s)

/-- Brings the classes, in order, to `target` members each. -/
def oversampleAll (target : Nat) (rows : List α) (labels : List Int) :
    List Int → σ → (List α × List Int) × σ
  | [], s => (([], []), s)
  | c :: cs, s =>
    let (here, s) := oversample target rows labels c s
    let (rest, s) := oversampleAll target rows labels cs s
    ((here.1 ++ rest.1, here.2 ++ rest.2), s)

/-- Draws members of the smaller classes again until all classes are as large as the largest, and
brings rows and labels into another order. There is nothing to balance in an empty set. -/
def balance (rows : List α) (labels : List Int) (s : σ) : Option (List α × List Int) :=
  match labels with
  | [] => none
  | labels =>
    let classes := labels.eraseDups
    let target := (classes.map labels.count).foldl max 0
    let (level, s) := oversampleAll target rows labels classes s
    let (order, _) := Source.shuffle (List.range level.2.length) s
    some (entriesAt level.1 order, entriesAt level.2 order)

end Balance

end LogicTutor.Training
