import LogicTutor.Reply.Basic

/-! What an operation comes to: a value, or the problem that it ran into. -/
namespace LogicTutor

inductive Outcome (α : Type) where
  | success (value : α) (message : Option String)
  | failure (problem : Problem)
  deriving Repr

namespace Outcome

variable {α β : Type}

def isSuccess : Outcome α → Bool
  | .success _ _ => true
  | .failure _ => false

def message : Outcome α → Option String
  | .success _ m => m
  | .failure p => p.message

def map (f : α → β) : Outcome α → Outcome β
  | .success v m => .success (f v) m
  | .failure p => .failure p

def andThen (o : Outcome α) (f : α → Outcome β) : Outcome β :=
  match o with
  | .success v _ => f v
  | .failure p => .failure p

/-- The reply that tells the outcome, with the status for either case. -/
def toReply (onSuccess onFailure : Nat) : Outcome Json → Reply
  | .success v m => ⟨onSuccess, true, v, m, [], []⟩
  | .failure p => ⟨onFailure, false, .null, p.message, [p], []⟩

end Outcome

end LogicTutor
