/-
  Descent/Pattern.lean
  ====================
  **Patterns** — parsers of what a regular expression matches.

  What a regular expression is, and where a text matches it, is known to a library that
  compiles expressions and searches for them.  The library is a parameter here
  (`Pattern.Library`); what is found is a part of the text, with what stands on both sides
  of it (`Occurrence`).

  A pattern is anchored by its text: the start of a text and a group are written around it,
  and what comes out is compiled.  The cursor is moved over as many characters as were
  found, from where it stood.
-/
import Descent.Error
import Descent.Parser.Basic

namespace Descent

/-- A part of a text, and where it stands. -/
structure Occurrence (text : List Char) where
  before : List Char
  found : List Char
  behind : List Char
  text_eq : before ++ (found ++ behind) = text

/-- A number of characters of a text behind a number of others. -/
def Occurrence.at (text : List Char) (start length : Nat) : Occurrence text where
  before := text.take start
  found := (text.drop start).take length
  behind := (text.drop start).drop length
  text_eq := by rw [List.take_append_drop, List.take_append_drop]

namespace Pattern

structure Library where
  /-- What an expression is compiled to. -/
  Program : Type
  /-- A text that is no expression is compiled to nothing. -/
  compile? : String → Option Program
  find? (program : Program) (text : List Char) : Option (Occurrence text)

def grouped (text : String) : String := "(?:" ++ text ++ ")"

def anchored (text : String) : String := "^" ++ grouped text

end Pattern

/-- Accept as many characters as the first match has. -/
def Scanner.pattern (lib : Pattern.Library) (program : lib.Program) (label : String) : Scanner :=
  fun rest =>
    match lib.find? program rest with
    | some o => .accept o.found.length (.str (String.ofList o.found))
    | none => Scanner.miss 0 rest label

/-- The text that a regular expression matches at the cursor. -/
def Parser.pattern (lib : Pattern.Library) (text : String) : Except Error Parser :=
  match lib.compile? (Pattern.anchored text) with
  | some program => .ok (.scan (.pattern lib program ("/" ++ text ++ "/")))
  | none => .error .invalidPattern

end Descent
