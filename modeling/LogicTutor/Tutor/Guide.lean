import LogicTutor.Json.Basic

/-! What the tutor says about itself: methods of proof, ways to write formulas, its state. -/
namespace LogicTutor.Guide

def texts (xs : List String) : Json := .arr (xs.map .str)

def describe (description objective : String) : Json :=
  .obj [("description", .str description), ("objective", .str objective)]

def methods : Json :=
  .obj [("methods", .obj [
    ("automatic", .obj [("description", .str "Tenta multiplas estrategias automaticamente"),
      ("strategies", texts ["direct", "contrapositive", "absurd"])]),
    ("direct", describe "Prova por transformacao direta" "Transformar P1 ate que seja igual a P2"),
    ("contrapositive", describe "Prova atraves da contrapositiva" "Provar que ~P1 ≡ ~P2"),
    ("absurd", describe "Prova por reducao ao absurdo" "Provar que (P1 ∧ ~P2) = F"),
    ("bidirectional", describe "Prova atraves de dupla implicacao"
      "Provar que (P1 -> P2) = T e (P2 -> P1) = T")])]

def spelling : Json :=
  .obj [
    ("operators", .obj [("negation", texts ["~p", "!p", "NOT p"]),
      ("conjunction", texts ["p ^ q", "p & q", "p AND q"]),
      ("disjunction", texts ["p v q", "p | q", "p OR q"]),
      ("implication", texts ["p -> q", "p => q", "p IMPLIES q"])]),
    ("constants", .obj [("true", .str "T"), ("false", .str "F")]),
    ("grouping", .str "(p ^ q)"),
    ("examples", texts ["p ^ q", "~(p v q)", "(p ^ q) v r", "~~p", "p -> q",
      "(p -> q) ^ (q -> r)"])]

/-- `ready` says whether the models are there. -/
def status (ready : Bool) : Json :=
  .obj [("status", .str "online"), ("models_loaded", .bool ready), ("version", .str "1.0.0")]

end LogicTutor.Guide
