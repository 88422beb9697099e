/-
  Descent/RuleBook.lean
  =====================
  **The rule book** — all rules that were ever made, and what they own.

  A rule owns two cells.  One is for its body, which is written once and never
  replaced; the other one is for a factory that makes the body when it is needed.
  The first use of the rule takes the factory out of its cell, and from then on until
  the body is there both cells are empty.

  Handles count as long as someone who is alive holds them: the names under which
  handles and parsers are kept, and the cells of rules that are not dropped
  themselves.  A factory holds the handles that it has captured, a body those that are
  in it.  A rule to which no strong handle is left is dropped for good
  (`RuleBook.sweep`), and what it owned is freed.  A rule that is held by its own body
  alone, or by a circle of such rules, is therefore never dropped.
-/
import Descent.Blueprint

namespace Descent

/-- The handles that names stand for in a blueprint, the innermost first. -/
abbrev Scope := List (String × Handle)

/-- The part of a scope that some names ask for. -/
def Scope.capture (scope : Scope) (names : List String) : Scope :=
  names.filterMap fun name => (scope.lookup name).map (name, ·)

/-- A factory with the handles that it has captured. -/
structure Closure where
  factory : Factory Blueprint
  captured : Scope

structure Slot where
  factory : Option Closure
  body : Option Parser
  /-- A strong handle of the rule is left. -/
  alive : Bool
  freed : alive = false → factory = none ∧ body = none

namespace Slot

def undefined : Slot := ⟨none, none, true, nofun⟩

def deferred (closure : Closure) : Slot := ⟨some closure, none, true, nofun⟩

def defined (body : Parser) : Slot := ⟨none, some body, true, nofun⟩

/-- A rule to which no strong handle is left. -/
def dropped : Slot := ⟨none, none, false, fun _ => ⟨rfl, rfl⟩⟩

def isDefined (slot : Slot) : Bool := slot.body.isSome || slot.factory.isSome

def take (slot : Slot) : Slot :=
  ⟨none, slot.body, slot.alive, fun h => ⟨rfl, (slot.freed h).2⟩⟩

/-- A body is put into its cell, unless there is one already or the rule is gone. -/
def fill (slot : Slot) (body : Parser) : Slot :=
  if slot.alive then ⟨slot.factory, some (slot.body.getD body), true, nofun⟩ else slot

/-- The strong handles that a rule holds. -/
def holds (slot : Slot) : List Handle :=
  let captured := (slot.factory.map fun closure => closure.captured.map (·.2)).getD []
  let inside := (slot.body.map (·.handles)).getD []
  (captured ++ inside).filter (·.strong)

/-- How many rules have a body once a rule has one: the rule itself, and those that get
    one by its factory. -/
def ruleCount (slot : Slot) : Nat := 1 + (slot.factory.map (·.factory.ruleCount)).getD 0

end Slot

/-- All rules that were ever made; the index of a rule is its place here. -/
abbrev RuleBook := List Slot

namespace RuleBook

/-- What a rule owns; a rule that was never made is gone. -/
def slot (book : RuleBook) (rule : RuleId) : Slot := book[rule.index]?.getD .dropped

/-- What a handle leads to.  A strong handle always leads to its rule, a weak one as long
    as there is a strong one. -/
def slot? (book : RuleBook) (h : Handle) : Option Slot :=
  if h.strong || (book.slot h.rule).alive then some (book.slot h.rule) else none

def update (book : RuleBook) (rule : RuleId) (slot : Slot) : RuleBook := book.set rule.index slot

def nextId (book : RuleBook) (name : String) : RuleId := ⟨book.length, name⟩

def add (book : RuleBook) (slot : Slot) : RuleBook := book ++ [slot]

def take (book : RuleBook) (rule : RuleId) : RuleBook := book.update rule (book.slot rule).take

/-- Put a body into its cell, unless there is one already. -/
def fill (book : RuleBook) (rule : RuleId) (body : Parser) : RuleBook :=
  book.update rule ((book.slot rule).fill body)

/-- Whether a rule has a body or a factory for one. -/
def isDefined (book : RuleBook) (h : Handle) : Bool := (book.slot? h).any (·.isDefined)

def isResolved (book : RuleBook) (h : Handle) : Bool := (book.slot? h).any (·.body.isSome)

/-- Give a rule its body.  A rule that is gone takes none, and that is no error. -/
def define (book : RuleBook) (h : Handle) (body : Parser) : Except Error RuleBook :=
  match book.slot? h with
  | none => .ok book
  | some slot =>
    if slot.factory.isSome then .error (.ruleRedefined h.rule)
    else if slot.body.isSome then .error (.ruleRedefined h.rule)
    else .ok (book.fill h.rule body)

/-! ### Which rules live -/

/-- The strong handles that are held, by `roots` or by a rule. -/
def held (book : RuleBook) (roots : List Handle) : List Handle :=
  roots.filter (·.strong) ++ book.flatMap Slot.holds

/-- Drop each rule to which no strong handle is held. -/
def dropUnheld (book : RuleBook) (roots : List Handle) : RuleBook :=
  let indices := (book.held roots).map (·.rule.index)
  book.mapIdx fun i slot => if indices.contains i then slot else .dropped

/-- Drop rules until every rule left is held.  A round that drops nothing is the
    last one that matters, so as many rounds as there are rules are enough. -/
def sweepRounds (roots : List Handle) : Nat → RuleBook → RuleBook
  | 0, book => book
  | n + 1, book => sweepRounds roots n (book.dropUnheld roots)

def sweep (book : RuleBook) (roots : List Handle) : RuleBook :=
  sweepRounds roots book.length book

/-! ### How many rules there can be -/

/-- No more rules than this can ever have a body without further ones being made. -/
def capacity (book : RuleBook) : Nat := book.foldr (fun slot n => slot.ruleCount + n) 0

end RuleBook

end Descent
