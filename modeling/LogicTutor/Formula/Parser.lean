import LogicTutor.Formula.Glossary
import LogicTutor.Formula.Token

/-! Reading a formula. From weakest to strongest bind implication (to the right), disjunction and
conjunction (to the left) and negation. -/
namespace LogicTutor

/-- Why a text is no formula. The end of the text counts as `none` among the tokens. -/
inductive ParseError where
  /-- Nothing but white space. -/
  | empty
  /-- A character that starts no word. -/
  | stray (c : Char) (position : Nat)
  /-- An operand is missing where this token stands. -/
  | noOperand (got : Option Token)
  /-- A parenthesis is still open where this token stands. -/
  | unclosed (got : Option Token)
  /-- The formula is complete before this token. -/
  | trailing (got : Option Token)
  deriving DecidableEq, Repr

def ParseError.message : ParseError → String
  | .empty => "Empty expression"
  | .stray c position =>
      "Unexpected character: '" ++ c.toString ++ "' at position " ++ toString position
  | .noOperand got =>
      "Unexpected token: " ++ Token.shown got ++ " at token " ++ Token.shown got
  | .unclosed got =>
      "Expected RPAREN, got " ++ Token.kindShown got ++ " at token " ++ Token.shown got
  | .trailing got => "Unexpected token after expression at token " ++ Token.shown got

namespace Formula.Parser

/-- A formula, the atoms known after it was read, and what is left, which is shorter than what the
phrase was read from. -/
abbrev Phrase (s : TokenStream) :=
  Except ParseError (Formula × Glossary × { r : TokenStream // r.size < s.size })

/-- What is left after the end of a phrase is no longer than before. -/
abbrev Tail (s : TokenStream) :=
  Except ParseError (Formula × Glossary × { r : TokenStream // r.size ≤ s.size })

mutual

/-- A disjunction, or one that implies an implication. -/
def implication (d : Glossary) (s : TokenStream) : Phrase s :=
  match disjunction d s with
  | .error e => .error e
  | .ok (x, d, ⟨.token .implies _ r, hr⟩) =>
    match implication d r with
    | .error e => .error e
    | .ok (y, d, ⟨r', hr'⟩) =>
      .ok (.binary .imp x y, d, ⟨r', by simp only [TokenStream.size] at hr; omega⟩)
  | .ok (_, _, ⟨.stray c position, _⟩) => .error (.stray c position)
  | .ok (x, d, r) => .ok (x, d, r)
termination_by (s.size, 5)
decreasing_by
  · exact Prod.Lex.right _ (by decide)
  · exact Prod.Lex.left _ _ (by simp only [TokenStream.size] at hr; omega)

/-- Conjunctions joined by `or`. -/
def disjunction (d : Glossary) (s : TokenStream) : Phrase s :=
  match conjunction d s with
  | .error e => .error e
  | .ok (x, d, ⟨r, hr⟩) =>
    match disjuncts x d r with
    | .error e => .error e
    | .ok (y, d, ⟨r', hr'⟩) => .ok (y, d, ⟨r', Nat.lt_of_le_of_lt hr' hr⟩)
termination_by (s.size, 4)
decreasing_by
  · exact Prod.Lex.right _ (by decide)
  · exact Prod.Lex.left _ _ hr

/-- The further disjuncts after `x`. -/
def disjuncts (x : Formula) (d : Glossary) (s : TokenStream) : Tail s :=
  match s with
  | .token .or _ s' =>
    match conjunction d s' with
    | .error e => .error e
    | .ok (y, d, ⟨r, hr⟩) =>
      match disjuncts (.binary .or x y) d r with
      | .error e => .error e
      | .ok (z, d, ⟨r', hr'⟩) => .ok (z, d, ⟨r', by simp only [TokenStream.size]; omega⟩)
  | .stray c position => .error (.stray c position)
  | s => .ok (x, d, ⟨s, Nat.le_refl _⟩)
termination_by (s.size, 0)
decreasing_by
  · exact Prod.Lex.left _ _ (by simp only [TokenStream.size]; omega)
  · exact Prod.Lex.left _ _ (by simp only [TokenStream.size]; omega)

/-- Negations and primary formulas joined by `and`. -/
def conjunction (d : Glossary) (s : TokenStream) : Phrase s :=
  match negation d s with
  | .error e => .error e
  | .ok (x, d, ⟨r, hr⟩) =>
    match conjuncts x d r with
    | .error e => .error e
    | .ok (y, d, ⟨r', hr'⟩) => .ok (y, d, ⟨r', Nat.lt_of_le_of_lt hr' hr⟩)
termination_by (s.size, 3)
decreasing_by
  · exact Prod.Lex.right _ (by decide)
  · exact Prod.Lex.left _ _ hr

/-- The further conjuncts after `x`. -/
def conjuncts (x : Formula) (d : Glossary) (s : TokenStream) : Tail s :=
  match s with
  | .token .and _ s' =>
    match negation d s' with
    | .error e => .error e
    | .ok (y, d, ⟨r, hr⟩) =>
      match conjuncts (.binary .and x y) d r with
      | .error e => .error e
      | .ok (z, d, ⟨r', hr'⟩) => .ok (z, d, ⟨r', by simp only [TokenStream.size]; omega⟩)
  | .stray c position => .error (.stray c position)
  | s => .ok (x, d, ⟨s, Nat.le_refl _⟩)
termination_by (s.size, 0)
decreasing_by
  · exact Prod.Lex.left _ _ (by simp only [TokenStream.size]; omega)
  · exact Prod.Lex.left _ _ (by simp only [TokenStream.size]; omega)

/-- A primary formula under any number of negations. -/
def negation (d : Glossary) (s : TokenStream) : Phrase s :=
  match s with
  | .token .not _ s' =>
    match negation d s' with
    | .error e => .error e
    | .ok (x, d, ⟨r, hr⟩) => .ok (.neg x, d, ⟨r, by simp only [TokenStream.size]; omega⟩)
  | s => primary d s
termination_by (s.size, 2)
decreasing_by
  · exact Prod.Lex.left _ _ (by simp only [TokenStream.size]; omega)
  · exact Prod.Lex.right _ (by decide)

/-- An atom, a constant, or a formula in parentheses. -/
def primary (d : Glossary) (s : TokenStream) : Phrase s :=
  match s with
  | .finish => .error (.noOperand none)
  | .stray c position => .error (.stray c position)
  | .token (.atom name) _ r =>
    let (a, d) := d.resolve name
    .ok (.var a, d, ⟨r, by simp [TokenStream.size]⟩)
  | .token (.truth b) _ r => .ok (.const b, d, ⟨r, by simp [TokenStream.size]⟩)
  | .token .opening _ s' =>
    match implication d s' with
    | .error e => .error e
    | .ok (x, d, ⟨.token .closing _ r, hr⟩) =>
        .ok (x, d, ⟨r, by simp only [TokenStream.size] at hr ⊢; omega⟩)
    | .ok (_, _, ⟨.stray c position, _⟩) => .error (.stray c position)
    | .ok (_, _, ⟨.finish, _⟩) => .error (.unclosed none)
    | .ok (_, _, ⟨.token t _ _, _⟩) => .error (.unclosed (some t))
  | .token t _ _ => .error (.noOperand (some t))
termination_by (s.size, 1)
decreasing_by
  exact Prod.Lex.left _ _ (by simp only [TokenStream.size]; omega)

end

/-- A formula that the stream holds from its first token to its last, with its atoms. -/
def whole (d : Glossary) (s : TokenStream) : Except ParseError (Formula × Glossary) :=
  match implication d s with
  | .error e => .error e
  | .ok (x, d, ⟨.finish, _⟩) => .ok (x, d)
  | .ok (_, _, ⟨.stray c position, _⟩) => .error (.stray c position)
  | .ok (_, _, ⟨.token t _ _, _⟩) => .error (.trailing (some t))

end Formula.Parser

namespace Formula

/-- Reads a formula together with its atoms, which are made for the given reading. -/
def read (reading : Nat) (s : String) : Except ParseError (Formula × Glossary) :=
  match Text.trimChars s.toList with
  | [] => .error .empty
  | cs => Parser.whole (.empty reading) (TokenStream.ofChars cs.length cs)

/-- Reads a formula. -/
def parse (reading : Nat) (s : String) : Except ParseError Formula :=
  (read reading s).map (·.1)

end Formula

end LogicTutor
