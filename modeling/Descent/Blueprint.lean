/-
  Descent/Blueprint.lean
  ======================
  **Blueprints** — grammars whose rules are not made yet.

  A parser holds handles of rules that exist.  A blueprint only names rules, and
  says which ones are to be made.  Building it (`Blueprint.build`) makes the rules
  and gives the parser.  It goes through the parts of a blueprint from left to
  right and stops at the first part that cannot be built.

  Each recursive or deferred rule of a blueprint is a rule of its own, also where
  two of them share a name.  The body of a recursive rule reaches the rule itself
  through a weak handle.  The body of a deferred rule is made by a factory when the
  rule is first used, and what it names is looked up then; but handles in
  scope that it mentions are captured at once (`Blueprint.mentions`).

  A factory is more than a blueprint: before it is done it can ask whether rules are
  defined, and define some.
-/
import Descent.Error
import Descent.Parser.Basic

namespace Descent

/-- What makes the body of a deferred rule when the rule is first used. -/
inductive Factory (Plan : Type) where
  /-- The body itself. -/
  | build (plan : Plan)
  /-- A definition of a rule, and how to go on if it was taken or refused. -/
  | define (name : String) (plan : Plan) (next : Bool → Factory Plan)
  /-- Whether a rule is defined, and how to go on in either case. -/
  | ask (name : String) (next : Bool → Factory Plan)

/-- A grammar whose rules are not made yet. -/
inductive Blueprint where
  | leaf (p : Parser)
  /-- A parser without rules, or why there is none. -/
  | checked (p : Except Error Parser)
  | unary (combinator : Parser → Parser) (p : Blueprint)
  | binary (combinator : Parser → Parser → Parser) (p q : Blueprint)
  | ternary (combinator : Parser → Parser → Parser → Parser) (p q r : Blueprint)
  /-- A parser, then the branch that its text selects. -/
  | switch (p : Blueprint) (branches : List (String × Blueprint)) (other : Blueprint)
  | recursive (name : String) (body : Blueprint)
  /-- A new rule, whose body is made when it is first used. -/
  | deferred (name : String) (factory : Factory Blueprint)
  /-- The handle that a name has in scope. -/
  | this (name : String)
  | kept (name : String)
  | weak (name : String)
  | stored (name : String)

/-! ### Names and counts -/

mutual

/-- The names for which a blueprint asks its scope. -/
def Blueprint.mentions : Blueprint → List String
  | .leaf _ | .checked _ | .kept _ | .weak _ | .stored _ => []
  | .unary _ p => p.mentions
  | .binary _ p q => p.mentions ++ q.mentions
  | .ternary _ p q r => p.mentions ++ q.mentions ++ r.mentions
  | .switch p branches other => p.mentions ++ Blueprint.branchesMention branches ++ other.mentions
  | .recursive name body => body.mentions.filter (· ≠ name)
  | .deferred _ factory => factory.mentions
  | .this name => [name]

def Blueprint.branchesMention : List (String × Blueprint) → List String
  | [] => []
  | (_, p) :: rest => p.mentions ++ Blueprint.branchesMention rest

def Factory.mentions : Factory Blueprint → List String
  | .build plan => plan.mentions
  | .define name plan next =>
    name :: (plan.mentions ++ (next true).mentions ++ (next false).mentions)
  | .ask name next => name :: ((next true).mentions ++ (next false).mentions)

end

mutual

/-- How many rules get a body by a blueprint: those that it makes, and those that its
    factories make and define. -/
def Blueprint.ruleCount : Blueprint → Nat
  | .leaf _ | .checked _ | .this _ | .kept _ | .weak _ | .stored _ => 0
  | .unary _ p => p.ruleCount
  | .binary _ p q => p.ruleCount + q.ruleCount
  | .ternary _ p q r => p.ruleCount + q.ruleCount + r.ruleCount
  | .switch p branches other => p.ruleCount + Blueprint.branchesCount branches + other.ruleCount
  | .recursive _ body => body.ruleCount + 1
  | .deferred _ factory => factory.ruleCount + 1

def Blueprint.branchesCount : List (String × Blueprint) → Nat
  | [] => 0
  | (_, p) :: rest => p.ruleCount + Blueprint.branchesCount rest

def Factory.ruleCount : Factory Blueprint → Nat
  | .build plan => plan.ruleCount
  | .define _ plan next => plan.ruleCount + 1 + max (next true).ruleCount (next false).ruleCount
  | .ask _ next => max (next true).ruleCount (next false).ruleCount

end

end Descent
