import LogicTutor.Console.Dialogue

/-! The console program. -/
namespace LogicTutor

/-- Nobody gives advice that can be followed, so that provers choose for themselves. -/
def unadvised (seed : Nat) : Session Chance :=
  .start (.ofSeed seed) (some (.script [(1, "nothing")])) (some (.script ["nothing"]))

partial def talk (input output : IO.FS.Stream) (d : Console.Dialogue Chance) : IO UInt32 := do
  output.flush
  if d.stage = .finished then return 0
  let typed ← input.getLine
  if typed.isEmpty then
    output.putStr d.onEnd
    output.flush
    return 0
  match d.onLine typed with
  | .error _ => return 1
  | .ok (shown, d) =>
    output.putStr shown
    talk input output d

end LogicTutor

open LogicTutor in
def main (args : List String) : IO UInt32 := do
  let output ← IO.getStdout
  match Console.Dialogue.start args (unadvised (← IO.monoNanosNow)) with
  | .error _ => return 1
  | .ok (shown, d) =>
    output.putStr shown
    talk (← IO.getStdin) output d
