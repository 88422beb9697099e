/-
  Descent/Verdict.lean
  ====================
  **Verdicts** — what a primitive reader decides about the text in front of it.

  A primitive reader looks at the unread text and either accepts some number of
  leading characters with a value, or refuses some number of characters further on.
  It says how far, never where, so it cannot move backwards or out of the text.
-/
import Descent.Chars.Lower
import Descent.Failure
import Descent.Value

namespace Descent

/-- What a primitive reader decides. -/
inductive Verdict where
  /-- Take `length` characters, for this value. -/
  | accept (length : Nat) (value : Value)
  /-- Stop `length` characters further on, for this reason. -/
  | refuse (length : Nat) (message : String) (labels : List String)
  deriving Repr

/-- A primitive reader of the unread text. -/
abbrev Scanner := List Char → Verdict

namespace Scanner

/-- The verdict that something else was wanted in front of `rest`, `length`
    characters further on. -/
def miss (length : Nat) (rest : List Char) (label : String) : Verdict :=
  .refuse length (unexpected (rest.drop length)) [label]

def succeed (v : Value) : Scanner := fun _ => .accept 0 v

def endOfInput : Scanner := fun rest =>
  if rest.isEmpty then .accept 0 .unit else miss 0 rest "end of input"

def take (n : Nat) : Scanner := fun rest =>
  if n ≤ rest.length then .accept n (.str (String.ofList (rest.take n)))
  else miss rest.length rest "more text"

def fail (n : Nat) (message : String) (labels : List String) : Scanner := fun _ =>
  .refuse n message labels

end Scanner

/-! ### Literals -/

/-- How many leading characters of two texts agree in turn. -/
def agreeing (same : Char → Char → Bool) : List Char → List Char → Nat
  | a :: as, b :: bs => if same a b then agreeing same as bs + 1 else 0
  | _, _ => 0

def sameChar (ignoreCase : Bool) (a b : Char) : Bool :=
  if ignoreCase then Chars.sameIgnoringCase a b else a = b

/-- Accept a text that agrees with the literal character by character; the value is
    the text itself.  A mismatch at the first character asks for the whole literal,
    a later one for the next character of it. -/
def Scanner.literal (ignoreCase : Bool) (text : String) : Scanner := fun rest =>
  let n := agreeing (sameChar ignoreCase) rest text.toList
  match text.toList.drop n with
  | [] => .accept n (.str (String.ofList (rest.take n)))
  | next :: _ => Scanner.miss n rest (if n = 0 then text else String.singleton next)

end Descent
