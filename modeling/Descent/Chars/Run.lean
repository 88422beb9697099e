/-
  Descent/Chars/Run.lean
  ======================
  **Runs of code points** — how the tables of character properties are written.

  A property of the Unicode character database (version 17.0, where a table does
  not say otherwise) is a set of code points.  A table lists it as runs: every code
  point from `first` to `last`, or every second one, which is how capital and small
  letters alternate in many blocks.  A case map is listed the same way: along a
  `Shift` each code point moves by the same distance.
-/

namespace Descent.Chars

/-- The code points `first`, `first + step`, … up to `last`. -/
structure Run where
  first : Nat
  last : Nat
  step : Nat
  deriving DecidableEq, Repr

def Run.contains (r : Run) (n : Nat) : Bool :=
  r.first ≤ n && n ≤ r.last && (n - r.first) % r.step == 0

def covers (table : List Run) (c : Char) : Bool :=
  table.any (·.contains c.toNat)

/-- The code points `first`, `first + step`, … up to `last`, moved by the distance
    from `first` to `target`. -/
structure Shift where
  first : Nat
  last : Nat
  step : Nat
  target : Nat
  deriving DecidableEq, Repr

def Shift.moves (s : Shift) (n : Nat) : Bool :=
  s.first ≤ n && n ≤ s.last && (n - s.first) % s.step == 0

/-- Where a character goes; it stays if no shift of the table moves it. -/
def shifted (table : List Shift) (c : Char) : Char :=
  match table.find? (·.moves c.toNat) with
  | some s => Char.ofNat (c.toNat - s.first + s.target)
  | none => c

end Descent.Chars
