/-
  Descent/Cursor.lean
  ===================
  **Cursors** — how a text is walked, one character at a time and only forward.

  A cursor is plain data: the whole text, a place in it and the text still unread.
  Stepping gives a new cursor and leaves the old one as it was, so a grammar can
  come back to an earlier cursor whenever it likes.  The one other way to move is
  `Cursor.relocate`, which recomputes the unread text from a place that an earlier
  walk over the same text came to.

  Whether a grammar consumed anything is asked by comparing places
  (`Cursor.sameSpot`), never texts.
-/
import Descent.Position
import Descent.Text.Bytes
import Descent.Text.Quoted

namespace Descent

/-- A place in a text, with the text. -/
structure Cursor where
  source : List Char
  position : Position
  rest : List Char
  deriving DecidableEq, Repr

namespace Cursor

def start (source : List Char) : Cursor := ⟨source, .start, source⟩

def offset (c : Cursor) : Nat := c.position.offset

def current? (c : Cursor) : Option Char := c.rest.head?

/-- The character under the cursor and the cursor behind it; nothing at the end. -/
def step? (c : Cursor) : Option (Char × Cursor) :=
  match c.rest with
  | [] => none
  | ch :: rest => some (ch, ⟨c.source, c.position.after ch, rest⟩)

def advance? (c : Cursor) : Option Cursor := c.step?.map Prod.snd

/-- Up to `n` characters further, stopping at the end. -/
def skip : Nat → Cursor → Cursor
  | 0, c => c
  | n + 1, c =>
    match c.advance? with
    | some d => skip n d
    | none => c

def atEnd (c : Cursor) : Bool := c.rest.isEmpty

def sameSpot (c d : Cursor) : Bool := c.position = d.position

/-- The text between this cursor and a later one; empty if the other is not later. -/
def sliceTo (c d : Cursor) : List Char := Text.takeBytes (d.offset - c.offset) c.rest

/-- How many characters an error report quotes from before the cursor. -/
def recentLength : Nat := 10

def recent (c : Cursor) : List Char :=
  let consumed := Text.takeBytes c.offset c.source
  consumed.drop (consumed.length - recentLength)

def relocate (c : Cursor) (p : Position) : Cursor :=
  ⟨c.source, p, Text.dropBytes p.offset c.source⟩

/-- How many characters of the unread text a cursor shows of itself. -/
def glimpseLength : Nat := 16

def inspect (c : Cursor) : String :=
  s!"Cursor \x7b position: Position \x7b offset: {c.position.offset}, line: {c.position.line}, " ++
    s!"column: {c.position.column} \x7d, rest: " ++ Text.quote (c.rest.take glimpseLength) ++
    " \x7d"

end Cursor

end Descent
