/-
  Descent/Rule.lean
  =================
  **Rules and handles** — how a grammar refers to a rule.

  A rule has an identity of its own and the name it was made under; two rules may
  share a name.  A grammar reaches a rule through handles.  A strong handle keeps
  its rule alive, a weak one does not, and apart from that they are alike.
-/

namespace Descent

/-- The identity of a rule. -/
structure RuleId where
  index : Nat
  name : String
  deriving DecidableEq, Repr

def RuleId.render (r : RuleId) : String := "#" ++ r.name

/-- A way to reach a rule. -/
structure Handle where
  rule : RuleId
  /-- Whether the handle keeps its rule alive. -/
  strong : Bool
  deriving DecidableEq, Repr

def Handle.downgrade (h : Handle) : Handle := { h with strong := false }

end Descent
