/-
  Descent/World.lean
  ==================
  **Running a grammar** — what rules do, and the state they do it in.

  A rule is run by expanding its body, under the eyes of the guard.  Before that,
  the rule must be there, and if it has a factory only, that is taken out and run; while it
  runs, the rule has neither.  Then the guard decides: a
  rule that is already being expanded at this place is left recursive, an outcome
  that was recorded at this place is used again, and otherwise the body is run and
  its outcome recorded.

  Expansions that are under way at the same time differ in their rule or in their
  offset.  There are only so many rules, those included that are made on the way,
  and only so many places left in the text; their product bounds how deep
  expansions can nest (`World.depthLimit`), and that is the fuel of `World.call`.
-/
import Descent.Blueprint.Build
import Descent.Guard
import Descent.Matcher

namespace Descent

/-- Everything that a run can change or depend on, besides the text. -/
structure World where
  book : RuleBook
  registry : Registry
  guard : Guard
  journal : List Record
  tallies : Tallies

namespace World

def empty : World := ⟨[], .empty, .empty, [], []⟩

def note (r : Record) (w : World) : World := { w with journal := r :: w.journal }

def tally (label : String) (w : World) : World := { w with tallies := w.tallies.count label }

instance : Traced World := ⟨note, tally⟩

def bindGuard (source : List Char) (w : World) : World :=
  let w := if w.guard.dropsEntries source then w.note .rebound else w
  { w with guard := w.guard.bind source }

def withBook (change : RuleBook → RuleBook) (w : World) : World :=
  { w with book := change w.book }

/-! ### Rules -/

/-- The factory of a rule is taken out, run and gone.  Its product is the body of the rule,
    unless the rule was given one in the meantime. -/
def develop (rule : RuleId) (closure : Closure) (w : World) : Option Parser × World :=
  let w := ((w.withBook (·.take rule)).note (.resolving rule)).tally ("build:" ++ rule.name)
  let (product, book) := closure.produce w.registry w.book
  let book := book.fill rule product
  ((book.slot rule).body, { w with book })

def resolve (h : Handle) (w : World) : Option Parser × World :=
  match w.book.slot? h with
  | none => (none, w)
  | some slot =>
    match slot.body, slot.factory with
    | some body, _ => (some body, w)
    | none, some closure => w.develop h.rule closure
    | none, none => (none, w)

/-- What a rule does; expansions nest at most `fuel` deep. -/
def call : (fuel : Nat) → Handle → Matcher World
  | 0, _, _, _ => none
  | fuel + 1, h, c, w =>
    match w.resolve h with
    | (none, w) => some (.defect (.undefinedRule h.rule c), w)
    | (some body, w) =>
      match w.guard.lookup? h.rule c.offset with
      | some .expanding =>
        some (.defect (.leftRecursion h.rule c), w.note (.reentered h.rule c.position))
      | some (.done memo) => some (memo.restore c, w.note (.served h.rule c.position))
      | none =>
        match body.matcher (call fuel) c { w with guard := w.guard.enter h.rule c.offset } with
        | none => none
        | some (reply, w) =>
          some (reply, { w with guard := w.guard.leave h.rule c.offset reply })

/-- How deep expansions can nest in a run from a cursor. -/
def depthLimit (c : Cursor) (w : World) : Nat := w.book.capacity * (c.rest.length + 1) + 1

def run (p : Parser) : Matcher World := fun c w => p.matcher (call (w.depthLimit c)) c w

/-! ### Whole texts -/

/-- Run a parser from the start of a text, under a guard that knows nothing. -/
def runAfresh (p : Parser) (source : List Char) (w : World) : Option (Reply × World) :=
  run p (.start source) (({ w with guard := .empty } : World).bindGuard source)

/-- What a parser makes of the start of a text, and the cursor behind it.  A refusal
    is recorded. -/
def parseLeading (p : Parser) (source : List Char) (w : World) :
    Option (Except Error (Value × Cursor) × World) :=
  match runAfresh p source w with
  | none => none
  | some (.success v d, w) => some (.ok (v, d), w)
  | some (.failure f, w) => some (.error f.toError, w.note (.refused f.render))
  | some (.defect e, w) => some (.error e.toError, w.note (.refused e.render))

/-- What a parser makes of a whole text. -/
def parse (p : Parser) (source : List Char) (w : World) :
    Option (Except Error Value × World) :=
  match parseLeading p.complete source w with
  | none => none
  | some (.ok (v, _), w) => some (.ok v, w)
  | some (.error e, w) => some (.error e, w)

end World

end Descent
