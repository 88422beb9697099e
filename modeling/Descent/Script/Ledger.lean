/-
  Descent/Script/Ledger.lean
  ==========================
  **Ledgers of failures** — scripts that make failures on a text and compare them.

  Each failure is entered under a name.  Places are given as a number of characters
  behind the start of the text, and stop at its end.
-/
import Descent.Error

namespace Descent

/-- Failures on a text, entered under names. -/
structure Ledger where
  origin : Cursor
  failures : List (String × Failure)
  deriving Repr

namespace Ledger

inductive Line where
  | enter (name : String) (place : Nat) (message : String) (labels : List String)
  | unexpected (name : String) (place : Nat) (label : String)
  | furthest (name first second : String)
  | relabel (name other label : String)
  | consumedFrom (name : String) (place : Nat)
  | agree (first second : String)
  | rest (name : String)
  | toError (name : String)
  deriving DecidableEq, Repr

inductive Reading where
  | failure (f : Failure)
  | flag (b : Bool)
  | text (t : List Char)
  | error (e : Error)
  deriving Repr

def start (source : List Char) : Ledger := ⟨.start source, []⟩

def placed (l : Ledger) (n : Nat) : Cursor := l.origin.skip n

/-- Use the failure of a name; an unknown name is an error. -/
def withFailure (l : Ledger) (name : String) (use : Failure → Reading × Ledger) :
    Reading × Ledger :=
  match l.failures.lookup name with
  | some f => use f
  | none => (.error (.unknownName name), l)

def record (l : Ledger) (name : String) (f : Failure) : Reading × Ledger :=
  (.failure f, { l with failures := (name, f) :: l.failures })

def step (l : Ledger) : Line → Reading × Ledger
  | .enter name place message labels => l.record name (.of (l.placed place) message labels)
  | .unexpected name place label => l.record name (.unexpected (l.placed place) label)
  | .furthest name first second =>
    l.withFailure first fun f => l.withFailure second fun g => l.record name (f.furthest g)
  | .relabel name other label => l.withFailure other fun f => l.record name (f.relabel label)
  | .consumedFrom name place =>
    l.withFailure name fun f => (.flag (f.consumedFrom (l.placed place)), l)
  | .agree first second =>
    l.withFailure first fun f => l.withFailure second fun g => (.flag (f.agrees g), l)
  | .rest name => l.withFailure name fun f => (.text f.remainder.rest, l)
  | .toError name => l.withFailure name fun f => (.error f.toError, l)

def runAll (l : Ledger) : List Line → List Reading
  | [] => []
  | line :: rest =>
    let (reading, l) := l.step line
    reading :: l.runAll rest

end Ledger

end Descent
