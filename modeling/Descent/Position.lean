/-
  Descent/Position.lean
  =====================
  **Places in a text** — where a character stands, for machines and for readers.

  A position counts three things at once: the bytes before it (in UTF-8), the line
  it is on, and the column on that line.  Lines and columns start at one, a column
  counts characters, and only a line feed starts a new line.  All three move
  together, one character at a time (`Position.after`), so any two positions on one
  text are ordered the same way by each of them.
-/

namespace Descent

structure Position where
  offset : Nat
  /-- The line, counted from one. -/
  line : Nat
  /-- The column in characters, counted from one. -/
  column : Nat
  deriving DecidableEq, Repr

namespace Position

def start : Position := ⟨0, 1, 1⟩

/-- The place just behind the character `c` that stands at `p`. -/
def after (p : Position) (c : Char) : Position :=
  if c = '\n' then ⟨p.offset + c.utf8Size, p.line + 1, 1⟩
  else ⟨p.offset + c.utf8Size, p.line, p.column + 1⟩

def compare (p q : Position) : Ordering :=
  (Ord.compare p.offset q.offset).then
    ((Ord.compare p.line q.line).then (Ord.compare p.column q.column))

def render (p : Position) : String := s!"Line {p.line}, Column {p.column}"

end Position

end Descent
