/-
  Descent/Blueprint/Build.lean
  ============================
  **Building** — from a blueprint to a parser, with the rules it asks for.

  Building writes new rules into the rule book and looks names up in a registry.
  Parts are built from left to right, and the first that cannot be built ends it.
  Rules made before that stay in the book, where nothing holds them.
-/
import Descent.RuleBook

namespace Descent

/-- What is kept under names. -/
structure Registry where
  handles : List (String × Handle)
  parsers : List (String × Parser)

namespace Registry

def empty : Registry := ⟨[], []⟩

def roots (r : Registry) : List Handle :=
  r.handles.map (·.2) ++ r.parsers.flatMap (·.2.handles)

end Registry

abbrev Builder := EStateM Error RuleBook

namespace Builder

def newRule (name : String) (slot : Slot) : Builder Handle := do
  let book ← get
  set (book.add slot)
  return ⟨book.nextId name, true⟩

/-- Make a rule whose body can refer to it. -/
def recursive (name : String) (scope : Scope) (body : Scope → Builder Parser) :
    Builder Handle := do
  let handle ← newRule name .undefined
  let body ← body ((name, handle.downgrade) :: scope)
  modify (RuleBook.fill · handle.rule body)
  return handle

def find {α : Type} (kept : List (String × α)) (name : String) : Builder α :=
  match kept.lookup name with
  | some a => return a
  | none => throw (.unknownName name)

/-- The handle that a factory has captured under a name, or else the one kept under it. -/
def target (registry : Registry) (captured : Scope) (name : String) : Builder Handle :=
  match captured.lookup name with
  | some handle => return handle
  | none => find registry.handles name

def define (handle : Handle) (body : Parser) : Builder Bool := do
  match (← get).define handle body with
  | .ok book =>
    set book
    return true
  | .error _ => return false

end Builder

namespace Blueprint

mutual

/-- Make the rules of a blueprint, and its parser. -/
def build (registry : Registry) (scope : Scope) : Blueprint → Builder Parser
  | .leaf p => return p
  | .checked p => MonadExcept.ofExcept p
  | .unary combinator p => return combinator (← p.build registry scope)
  | .binary combinator p q => do
    let p ← p.build registry scope
    let q ← q.build registry scope
    return combinator p q
  | .ternary combinator p q r => do
    let p ← p.build registry scope
    let q ← q.build registry scope
    let r ← r.build registry scope
    return combinator p q r
  | .switch p branches other => do
    let p ← p.build registry scope
    let branches ← buildBranches registry scope branches
    let other ← other.build registry scope
    return p.switch branches other
  | .recursive name body =>
    return .rule (← Builder.recursive name scope fun scope => body.build registry scope)
  | .deferred name factory =>
    return .rule (← Builder.newRule name (.deferred ⟨factory, scope.capture factory.mentions⟩))
  | .this name => return .rule (← Builder.find scope name)
  | .kept name => return .rule (← Builder.find registry.handles name)
  | .weak name => return .rule (← Builder.find registry.handles name).downgrade
  | .stored name => Builder.find registry.parsers name

def buildBranches (registry : Registry) (scope : Scope) :
    List (String × Blueprint) → Builder (List (String × Parser))
  | [] => return []
  | (text, p) :: rest => do
    let p ← p.build registry scope
    let rest ← buildBranches registry scope rest
    return (text, p) :: rest

end

end Blueprint

/-- Run a factory: what it asks and defines on the way, and the parser that it gives. -/
def Factory.run (registry : Registry) (captured : Scope) : Factory Blueprint → Builder Parser
  | .build plan => plan.build registry captured
  | .define name plan next => do
    let p ← plan.build registry captured
    let handle ← Builder.target registry captured name
    let taken ← Builder.define handle p
    (next taken).run registry captured
  | .ask name next => do
    let handle ← Builder.target registry captured name
    let book ← get
    (next (book.isDefined handle)).run registry captured

def Error.brokenBody (e : Error) : Parser := .failing 0 ("factory: " ++ e.kind) []

/-- The parser that a factory gives, and the rules behind it. -/
def Closure.produce (closure : Closure) (registry : Registry) (book : RuleBook) :
    Parser × RuleBook :=
  match closure.factory.run registry closure.captured book with
  | .ok p book => (p, book)
  | .error e book => (e.brokenBody, book)

end Descent
