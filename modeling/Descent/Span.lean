/-
  Descent/Span.lean
  =================
  **Spans** — stretches of a text between two places.
-/
import Descent.Position
import Descent.Text.Bytes

namespace Descent

/-- The stretch of a text from one place to another. -/
structure Span where
  start : Position
  stop : Position
  deriving DecidableEq, Repr

namespace Span

def length (s : Span) : Nat := s.stop.offset - s.start.offset

def isEmpty (s : Span) : Bool := s.start.offset = s.stop.offset

def slice (s : Span) (source : List Char) : List Char :=
  Text.takeBytes s.length (Text.dropBytes s.start.offset source)

end Span

end Descent
