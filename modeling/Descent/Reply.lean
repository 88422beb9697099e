/-
  Descent/Reply.lean
  ==================
  **Replies** — the three ways in which a run of a grammar can end.

  A success carries a value and the cursor to go on from.  An ordinary failure says
  that the text is not of this grammar; an alternative may still be.  A defect says
  that the grammar itself is broken: a rule was entered again at a place where it is
  already being expanded, or a rule without a body was used.  No alternative mends
  that, so nothing recovers from a defect.
-/
import Descent.Failure
import Descent.Rule
import Descent.Value

namespace Descent

/-- What is wrong with a grammar, and where that showed. -/
inductive Defect where
  /-- The rule was entered at a place where it is already being expanded. -/
  | leftRecursion (rule : RuleId) (place : Cursor)
  /-- The rule has no body, or is gone. -/
  | undefinedRule (rule : RuleId) (place : Cursor)
  deriving DecidableEq, Repr

namespace Defect

def rule : Defect → RuleId
  | .leftRecursion r _ | .undefinedRule r _ => r

def place : Defect → Cursor
  | .leftRecursion _ c | .undefinedRule _ c => c

def render : Defect → String
  | .leftRecursion r c => "left recursion in rule " ++ r.render ++ " at " ++ c.position.render
  | .undefinedRule r c =>
    "rule " ++ r.render ++ " used at " ++ c.position.render ++ " before it was defined"

end Defect

inductive Reply where
  | success (value : Value) (rest : Cursor)
  | failure (f : Failure)
  | defect (d : Defect)
  deriving Repr

end Descent
