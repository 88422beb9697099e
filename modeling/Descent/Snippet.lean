/-
  Descent/Snippet.lean
  ====================
  **Source snippets** — the lines around a place, with a pointer under it.

  A snippet shows the line of the place and up to two lines on either side, each
  behind a margin with its number.  The line of the place is marked in its margin,
  and a pointer line follows it, whose caret stands under the character at the
  place: the margin is as wide as its text, and a column counts characters.
-/
import Descent.Position

namespace Descent.Snippet

def splitLines : List Char → List (List Char)
  | [] => [[]]
  | c :: cs =>
    if c = '\n' then [] :: splitLines cs
    else
      match splitLines cs with
      | [] => [[c]]
      | line :: lines => (c :: line) :: lines

/-- A line without the carriage return that ends it, if one does. -/
def stripReturn (line : List Char) : List Char :=
  if line.getLast? = some '\r' then line.dropLast else line

def margin (marked : Bool) (number : Nat) : String :=
  (if marked then "  > " else "    ") ++ toString number ++ " | "

def pointer (number column : Nat) : String :=
  String.ofList (List.replicate ((margin true number).length + (column - 1)) ' ') ++ "^--- here"

/-- How many lines a snippet shows on either side. -/
def reach : Nat := 2

/-- What a snippet shows for one numbered line of the text. -/
def showLine (p : Position) (line : List Char) (number : Nat) : List String :=
  if number + reach < p.line ∨ p.line + reach < number then []
  else
    let shown := margin (number = p.line) number ++ String.ofList (stripReturn line)
    if number = p.line then [shown, pointer number p.column] else [shown]

/-- The lines around a place, with a pointer under it. -/
def lines (source : List Char) (p : Position) : List String :=
  ((splitLines source).zipIdx 1).flatMap fun (line, number) => showLine p line number

end Descent.Snippet
