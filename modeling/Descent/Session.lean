/-
  Descent/Session.lean
  ====================
  **Sessions** — rules, parsers and guards kept under names, one command at a time.

  A session is a world in which handles and parsers are kept under names, with any
  number of named guards beside it.  Each command gives one answer; a command that
  fails answers with the error, and everything kept under a name stays as it was.
  Names hold what is kept under them, so after each command the rules that nothing
  holds any more are dropped.  In the course of a command none is.
-/
import Descent.World

namespace Descent

/-- How much of a text a parser is asked for. -/
inductive Extent where
  | whole
  /-- As much as it takes from the start, for a value or an error. -/
  | leading
  /-- As much as it takes from the start, for the reply itself. -/
  | reply
  deriving DecidableEq, Repr

inductive Command where
  | declare (name : String)
  /-- Keep a new rule whose body is made when it is first used, by a factory that captures
      the handles kept under some names. -/
  | defer (name : String) (captures : List String) (factory : Factory Blueprint)
  | makeRecursive (name : String) (body : Blueprint)
  | define (name : String) (body : Blueprint)
  | downgrade (name new : String)
  | clone (name new : String)
  | drop (name : String)
  | isDefined (name : String)
  | sameRule (first second : String)
  | inspect (name : String)
  | store (name : String) (p : Blueprint)
  | forget (name : String)
  | parse (p : Blueprint) (text : List Char) (extent : Extent)
  /-- Run a parser some characters behind the start of a text, under a named guard. -/
  | run (p : Blueprint) (guard : String) (text : List Char) (skip : Nat)
  | bind (guard : String) (text : List Char)
  | showGuard (guard : String)
  | showTallies

inductive Answer where
  | done
  | flag (b : Bool)
  | text (s : String)
  | size (n : Nat)
  | guard (g : Guard)
  | tallies (t : Tallies)
  | whole (v : Value) (source : List Char)
  /-- The value of the start of a text, and where it stops. -/
  | leading (v : Value) (stop : Cursor)
  /-- The reply of a run, the cursor it started from and the size of the guard. -/
  | reply (start : Cursor) (r : Reply) (guardSize : Nat)
  | error (e : Error)
  | endless

/-- A world with named guards beside it. -/
structure Session where
  world : World
  guards : List (String × Guard)

def keepUnder {α : Type} (name : String) (a : α) (kept : List (String × α)) : List (String × α) :=
  (name, a) :: kept.filter (·.1 ≠ name)

def Handle.inspect (h : Handle) (book : RuleBook) : String :=
  let weak := !h.strong
  let resolved := book.isResolved h
  s!"Ref \x7b rule: {h.rule.name}, weak: {weak}, resolved: {resolved} \x7d"

namespace Session

def empty : Session := ⟨.empty, []⟩

def journal (s : Session) : List Record := s.world.journal.reverse

/-- The guard of a name; a new name has one that knows nothing. -/
def guardOf (s : Session) (name : String) : Guard := (s.guards.lookup name).getD .empty

def withWorld (s : Session) (w : World) : Session := { s with world := w }

def withRegistry (s : Session) (change : Registry → Registry) : Session :=
  { s with world := { s.world with registry := change s.world.registry } }

def keepHandle (s : Session) (name : String) (h : Handle) : Session :=
  s.withRegistry fun r => { r with handles := keepUnder name h r.handles }

/-- Build something in the world of the session; an error is the answer. -/
def building {α : Type} (s : Session) (builder : Builder α)
    (andThen : α → Session → Answer × Session) : Answer × Session :=
  match builder s.world.book with
  | .ok a book => andThen a (s.withWorld { s.world with book })
  | .error e book => (.error e, s.withWorld { s.world with book })

/-- Use the handle of a name; an unknown name is an error. -/
def withHandle (s : Session) (name : String) (use : Handle → Answer × Session) :
    Answer × Session :=
  match s.world.registry.handles.lookup name with
  | some h => use h
  | none => (.error (.unknownName name), s)

/-- Make a rule and keep its handle under the name it is made under. -/
def make (s : Session) (name : String) (builder : Builder Handle) : Answer × Session :=
  s.building builder fun h s => (.done, s.keepHandle name h)

def parse (s : Session) (p : Parser) (text : List Char) : Extent → Answer × Session
  | .whole =>
    match s.world.parse p text with
    | some (.ok v, w) => (.whole v text, s.withWorld w)
    | some (.error e, w) => (.error e, s.withWorld w)
    | none => (.endless, s)
  | .leading =>
    match s.world.parseLeading p text with
    | some (.ok (v, stop), w) => (.leading v stop, s.withWorld w)
    | some (.error e, w) => (.error e, s.withWorld w)
    | none => (.endless, s)
  | .reply =>
    match s.world.runAfresh p text with
    | some (r, w) => (.reply (.start text) r w.guard.size, s.withWorld w)
    | none => (.endless, s)

/-- Bind the guard of a name to a text, and give the world in which it guards. -/
def bound (s : Session) (name : String) (text : List Char) : World :=
  { s.world with guard := s.guardOf name }.bindGuard text

/-- Take a changed world, with its guard under a name. -/
def takeGuard (s : Session) (name : String) (w : World) : Session :=
  ⟨w, keepUnder name w.guard s.guards⟩

/-- Run a parser some characters behind the start of a text, under a named guard. -/
def run (s : Session) (p : Parser) (guard : String) (text : List Char) (skip : Nat) :
    Answer × Session :=
  let c := (Cursor.start text).skip skip
  match World.run p c (s.bound guard text) with
  | some (r, w) => (.reply c r w.guard.size, s.takeGuard guard w)
  | none => (.endless, s)

def perform (s : Session) : Command → Answer × Session
  | .declare name => s.make name (.newRule name .undefined)
  | .defer name captures factory =>
    let captured := Scope.capture s.world.registry.handles captures
    s.make name (.newRule name (.deferred ⟨factory, captured⟩))
  | .makeRecursive name body =>
    s.make name (.recursive name [] fun scope => body.build s.world.registry scope)
  | .define name body =>
    s.building (body.build s.world.registry []) fun p s =>
      s.withHandle name fun h =>
        match s.world.book.define h p with
        | .ok book => (.done, s.withWorld { s.world with book })
        | .error e => (.error e, s)
  | .downgrade name new => s.withHandle name fun h => (.done, s.keepHandle new h.downgrade)
  | .clone name new => s.withHandle name fun h => (.done, s.keepHandle new h)
  | .drop name =>
    (.flag (s.world.registry.handles.lookup name).isSome,
      s.withRegistry fun r => { r with handles := r.handles.filter (·.1 ≠ name) })
  | .isDefined name => s.withHandle name fun h => (.flag (s.world.book.isDefined h), s)
  | .sameRule first second =>
    s.withHandle first fun h => s.withHandle second fun k =>
      (.flag (h.rule.index = k.rule.index), s)
  | .inspect name => s.withHandle name fun h => (.text (h.inspect s.world.book), s)
  | .store name p =>
    s.building (p.build s.world.registry []) fun p s =>
      (.done, s.withRegistry fun r => { r with parsers := keepUnder name p r.parsers })
  | .forget name =>
    (.flag (s.world.registry.parsers.lookup name).isSome,
      s.withRegistry fun r => { r with parsers := r.parsers.filter (·.1 ≠ name) })
  | .parse p text extent =>
    s.building (p.build s.world.registry []) fun p s => s.parse p text extent
  | .run p guard text skip =>
    s.building (p.build s.world.registry []) fun p s => s.run p guard text skip
  | .bind guard text =>
    let w := s.bound guard text
    (.size w.guard.size, s.takeGuard guard w)
  | .showGuard guard => (.guard (s.guardOf guard), s)
  | .showTallies => (.tallies s.world.tallies, s)

/-- Drop the rules that nothing holds any more. -/
def sweep (s : Session) : Session :=
  s.withWorld { s.world with book := s.world.book.sweep s.world.registry.roots }

/-- Carry out a command, and drop the rules that nothing holds any more. -/
def step (s : Session) (command : Command) : Answer × Session :=
  let (answer, s) := s.perform command
  (answer, s.sweep)

def runAll (s : Session) : List Command → List Answer × Session
  | [] => ([], s)
  | command :: rest =>
    let (answer, s) := s.step command
    let (answers, s) := s.runAll rest
    (answer :: answers, s)

end Session

end Descent
