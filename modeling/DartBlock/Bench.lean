import DartBlock.Runner

/-!
# Sequences of steps

A bench is a runner at a host: it takes steps one after the other and counts the scratch files
made. Each step brings its own host settings and process.
-/

namespace DartBlock

inductive Action
  | execute
  | run
  | expand
  deriving DecidableEq, Repr

structure Step where
  action : Action
  block : Block
  host : Host
  guest : Guest

inductive Reply
  | shaped (s : Shaped)
  | program (text : String)
  | block (b : BlockResult)
  deriving Repr

/-- A runner, and the number of scratch files made so far. -/
structure Bench where
  runner : Runner := {}
  made : Nat := 0
  deriving Repr

namespace Bench

def step (b : Bench) (s : Step) : Outcome Reply × Bench :=
  let site : Site := { host := s.host, guest := s.guest, made := b.made }
  let (outcome, runner) : Outcome Reply × Runner :=
    match s.action with
    | .execute => let (o, r) := b.runner.execute site s.block; (do return .shaped (← o), r)
    | .run => let (o, r) := b.runner.run site s.block; (do return .block (← o), r)
    | .expand => let (o, r) := b.runner.expand s.block; (do return .program (← o), r)
  (outcome, { runner, made := b.made + outcome.events.countP Event.creates })

/-- Takes steps in order and returns what each yields, with the bench after it. -/
def steps (b : Bench) : List Step → List (Outcome Reply × Bench)
  | [] => []
  | s :: ss => let turn := b.step s; turn :: steps turn.2 ss

end Bench

end DartBlock
