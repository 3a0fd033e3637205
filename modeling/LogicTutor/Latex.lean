import LogicTutor.Text.Digit
import LogicTutor.Text.Letter

/-! Plain mathematical text turned into LaTeX by a fixed list of rules. Each rule goes once over
the whole text from the left and replaces what it recognises; a later rule sees what the earlier
ones have written. -/
namespace LogicTutor.Latex

/-- What one rule recognises and writes. Letters are recognised in either case. -/
inductive Rule where
  /-- A quotient of two numbers or bracketed texts. -/
  | fraction
  /-- A letter or digit raised to a number. -/
  | power
  /-- The root of a bracketed text. -/
  | root
  /-- A word that stands by itself. -/
  | word (w : String) (command : String)
  /-- A sign of one or more characters. -/
  | sign (s : String) (command : String)
  /-- A star, with the white space around it. -/
  | product
  deriving DecidableEq, Repr

/-- A character of a word: a letter, a numeral or the low line. -/
def isWordChar (c : Char) : Bool := Text.isWordChar c || c = '_'

/-- What follows the given characters at the front of the text. -/
def after? : List Char → List Char → Option (List Char)
  | [], rest => some rest
  | _ :: _, [] => none
  | w :: ws, c :: rest => if Text.smallLatin c = w then after? ws rest else none

/-- A number, or a non-empty text in brackets without a closing one inside; and what follows. -/
def operand? (cs : List Char) : Option (List Char × List Char) :=
  match cs.span Text.isDigit with
  | (d :: ds, rest) => some (d :: ds, rest)
  | ([], '(' :: inner) =>
    match inner.span (· ≠ ')') with
    | (c :: body, ')' :: rest) => some ('(' :: c :: body ++ [')'], rest)
    | _ => none
  | _ => none

def braced (cs : List Char) : List Char := '\x7b' :: cs ++ ['\x7d']

def command (s : String) : List Char := '\\' :: s.toList

namespace Rule

/-- What the rule writes in place of the front of the text, and what it leaves of it. -/
def write? (prev : Option Char) (cs : List Char) : Rule → Option (List Char × List Char)
  | fraction => do
      let (num, rest) ← operand? cs
      let rest ← after? ['/'] (rest.dropWhile Text.isBlank)
      let (den, rest) ← operand? (rest.dropWhile Text.isBlank)
      return (command "frac" ++ braced num ++ braced den, rest)
  | power =>
      match cs with
      | c :: '^' :: rest =>
        match Text.isLatin c, rest.span Text.isDigit with
        | true, (d :: ds, rest) => some (c :: '^' :: braced (d :: ds), rest)
        | _, _ => none
      | _ => none
  | root => do
      let rest ← after? "sqrt(".toList cs
      match rest.span (· ≠ ')') with
      | (c :: body, ')' :: rest) => return (command "sqrt" ++ braced (c :: body), rest)
      | _ => none
  | word w s => do
      let rest ← after? w.toList cs
      if prev.any isWordChar || rest.head?.any isWordChar then none
      else return (command s, rest)
  | sign w s => do return (command s, ← after? w.toList cs)
  | product => do
      let rest ← after? ['*'] (cs.dropWhile Text.isBlank)
      return (' ' :: command "cdot" ++ [' '], rest.dropWhile Text.isBlank)

/-- The rule applied wherever it fits: `skip` characters are part of what was replaced last, and
`prev` stands before the text. -/
def sweep (r : Rule) : Nat → Option Char → List Char → List Char
  | _, _, [] => []
  | skip + 1, _, c :: rest => r.sweep skip (some c) rest
  | 0, prev, c :: rest =>
    match r.write? prev (c :: rest) with
    | some (new, left) => new ++ r.sweep (rest.length - left.length) (some c) rest
    | none => c :: r.sweep 0 (some c) rest

end Rule

/-- The rules in their order. -/
def rules : List Rule :=
  [.fraction, .power, .root,
   .word "alpha" "alpha", .word "beta" "beta", .word "gamma" "gamma", .word "delta" "delta",
   .word "theta" "theta", .word "pi" "pi", .word "sigma" "sigma", .word "omega" "omega",
   .sign "<=" "leq", .sign ">=" "geq", .sign "!=" "neq",
   .word "infinity" "infty", .word "inf" "infty", .word "sum" "sum", .word "prod" "prod",
   .word "int" "int", .word "lim" "lim", .word "sin" "sin", .word "cos" "cos", .word "tan" "tan",
   .word "log" "log", .word "ln" "ln", .product, .sign "+/-" "pm", .sign "->" "rightarrow",
   .sign "<-" "leftarrow", .sign "<=>" "Leftrightarrow"]

def convertChars (cs : List Char) : List Char :=
  rules.foldl (fun cs r => r.sweep 0 none cs) cs

def convert (s : String) : String := String.ofList (convertChars s.toList)

/-- There is a text, and no LaTeX form of it. -/
def isIncomplete (source latex : Option String) : Bool :=
  source.any (!·.isEmpty) && latex.all (·.isEmpty)

/-- The LaTeX form kept beside a text: the given one, or else the one made from the text, if there
is any. -/
def complete (source latex : Option String) : Option String :=
  if isIncomplete source latex then source.map convert else latex

end LogicTutor.Latex
