/-
  Descent/Journal.lean
  ====================
  **The journal** — what happened during a run, for whoever traces it.

  A run leaves records of the events that its reply does not show: a rule was built,
  an outcome was taken from the guard, a repetition fell short.  Nothing ever reads
  the journal to decide how to go on.
-/
import Descent.Failure
import Descent.Rule

namespace Descent

inductive Level where
  | trace
  | debug
  deriving DecidableEq, Repr

inductive Record where
  | resolving (rule : RuleId)
  /-- A recorded outcome of a rule was used again. -/
  | served (rule : RuleId) (place : Position)
  /-- A rule was entered at a place where it is already being expanded. -/
  | reentered (rule : RuleId) (place : Position)
  | fellShort (stop : Cursor)
  | rebound
  /-- A text was turned down, for the given reason. -/
  | refused (reason : String)
  deriving DecidableEq, Repr

namespace Record

def level : Record → Level
  | .reentered .. | .refused _ => .debug
  | _ => .trace

def message : Record → String
  | .resolving r => "resolving rule " ++ r.render
  | .served r p => "rule " ++ r.render ++ " at " ++ p.render ++ " served from the guard"
  | .reentered r p => "left recursion: rule " ++ r.render ++ " re-entered at " ++ p.render
  | .fellShort c => "repetition stopped at " ++ c.position.render ++ ": " ++ unexpected c.rest
  | .rebound => "recursion guard rebound to a new source; dropping entries"
  | .refused reason => "parse failed: " ++ reason

end Record

/-- A count for each label, in the order in which the labels were first counted. -/
abbrev Tallies := List (String × Nat)

def Tallies.count (label : String) : Tallies → Tallies
  | [] => [(label, 1)]
  | (known, n) :: rest =>
    if known = label then (known, n + 1) :: rest else (known, n) :: Tallies.count label rest

/-- A state in which a run can leave its traces. -/
class Traced (σ : Type) where
  note : Record → σ → σ
  tally : String → σ → σ

end Descent
