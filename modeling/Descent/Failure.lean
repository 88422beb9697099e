/-
  Descent/Failure.lean
  ====================
  **Ordinary failures** — where reading stopped, why, and what was expected there.

  Failures form a small algebra.  `Failure.furthest` keeps the one that got
  further; two that got equally far pool their expectations and keep the first
  one's message.  `Failure.relabel` puts one name in place of all expectations.
  Expectations never repeat and stand in the order in which they were first met.
-/
import Descent.Cursor

namespace Descent

def unexpected (rest : List Char) : String :=
  match rest with
  | ch :: _ => s!"unexpected '{ch}'"
  | [] => "unexpected end of input"

/-- Add labels that are not there yet, in order. -/
def addLabels (known fresh : List String) : List String :=
  fresh.foldl (fun known label => if label ∈ known then known else known ++ [label]) known

def expectedClause (expectations : List String) : String :=
  if expectations.isEmpty then "" else " expected " ++ String.intercalate " or " expectations

/-- Why and where reading stopped. -/
structure Failure where
  /-- The cursor where it stopped. -/
  remainder : Cursor
  message : String
  expectations : List String
  deriving DecidableEq, Repr

namespace Failure

/-- A failure at a cursor; labels named twice count once. -/
def of (remainder : Cursor) (message : String) (labels : List String) : Failure :=
  ⟨remainder, message, addLabels [] labels⟩

def unexpected (remainder : Cursor) (label : String) : Failure :=
  .of remainder (Descent.unexpected remainder.rest) [label]

def consumedFrom (f : Failure) (start : Cursor) : Bool := !f.remainder.sameSpot start

/-- The failure that got further; of two that got equally far, the first one with
    the expectations of both. -/
def furthest (f g : Failure) : Failure :=
  match Ord.compare g.remainder.offset f.remainder.offset with
  | .gt => g
  | .lt => f
  | .eq => { f with expectations := addLabels f.expectations g.expectations }

def relabel (f : Failure) (label : String) : Failure := { f with expectations := [label] }

def agrees (f g : Failure) : Bool :=
  f.remainder.sameSpot g.remainder && f.message = g.message && f.expectations = g.expectations

def render (f : Failure) : String :=
  f.message ++ ";" ++ expectedClause f.expectations ++ " (" ++ f.remainder.position.render ++ ")"

end Failure

end Descent
