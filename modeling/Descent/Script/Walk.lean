/-
  Descent/Script/Walk.lean
  ========================
  **Walks** — scripts that move one cursor over a text and ask where it is.

  A walk starts at the start of the text.  Cursors can be saved under names; a name
  under which none was saved stands for the start.
-/
import Descent.Cursor

namespace Descent

/-- A cursor, and cursors saved under names. -/
structure Walk where
  origin : Cursor
  cursor : Cursor
  saved : List (String × Cursor)
  deriving Repr

namespace Walk

inductive Move where
  | advance
  | skip (n : Nat)
  | step
  | current
  | atEnd
  | offset
  | rest
  | source
  | recent
  | render
  | inspect
  | save (name : String)
  | load (name : String)
  | sliceTo (name : String)
  | sliceFrom (name : String)
  | sameSpot (name : String)
  | compare (name : String)
  | isStart
  deriving DecidableEq, Repr

inductive Sight where
  | done
  | place (p : Option Position)
  | read (r : Option (Char × Position))
  | char (c : Option Char)
  | flag (b : Bool)
  | size (n : Nat)
  | text (t : List Char)
  | note (s : String)
  | order (o : Ordering)
  deriving Repr

def start (source : List Char) : Walk := ⟨.start source, .start source, []⟩

def savedAt (w : Walk) (name : String) : Cursor := (w.saved.lookup name).getD w.origin

def step (w : Walk) : Move → Sight × Walk
  | .advance =>
    match w.cursor.advance? with
    | some d => (.place d.position, { w with cursor := d })
    | none => (.place none, w)
  | .skip n =>
    let d := w.cursor.skip n
    (.place d.position, { w with cursor := d })
  | .step =>
    match w.cursor.step? with
    | some (c, d) => (.read (some (c, d.position)), { w with cursor := d })
    | none => (.read none, w)
  | .current => (.char w.cursor.current?, w)
  | .atEnd => (.flag w.cursor.atEnd, w)
  | .offset => (.size w.cursor.offset, w)
  | .rest => (.text w.cursor.rest, w)
  | .source => (.text w.cursor.source, w)
  | .recent => (.text w.cursor.recent, w)
  | .render => (.note w.cursor.position.render, w)
  | .inspect => (.note w.cursor.inspect, w)
  | .save name => (.done, { w with saved := (name, w.cursor) :: w.saved })
  | .load name =>
    let d := w.savedAt name
    (.place d.position, { w with cursor := d })
  | .sliceTo name => (.text (w.cursor.sliceTo (w.savedAt name)), w)
  | .sliceFrom name => (.text ((w.savedAt name).sliceTo w.cursor), w)
  | .sameSpot name => (.flag (w.cursor.sameSpot (w.savedAt name)), w)
  | .compare name => (.order (w.cursor.position.compare (w.savedAt name).position), w)
  | .isStart => (.flag (w.cursor.position = .start), w)

def runAll (w : Walk) : List Move → List Sight
  | [] => []
  | m :: ms =>
    let (sight, w) := w.step m
    sight :: w.runAll ms

end Walk

end Descent
