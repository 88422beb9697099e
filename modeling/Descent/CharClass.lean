/-
  Descent/CharClass.lean
  ======================
  **Character classes** — which characters are wanted, and what they are called.

  The description of a class is what a failure names as expected.  It has no part in
  deciding which characters the class accepts.
-/
import Descent.Chars.Letter
import Descent.Chars.Lower
import Descent.Chars.Numeric
import Descent.Chars.Space
import Descent.Chars.Upper
import Descent.Text.Quoted
import Descent.Verdict

namespace Descent

/-- A set of characters with a description. -/
structure CharClass where
  accepts : Char → Bool
  description : String

namespace CharClass

def satisfying (test : Char → Bool) (description : String) : CharClass := ⟨test, description⟩

/-- The characters that a test turns down. -/
def avoiding (test : Char → Bool) (description : String) : CharClass :=
  ⟨fun c => !test c, "any character except " ++ description⟩

/-- The members of a set, one behind the other with bars between them. -/
def listed (set : List Char) : String :=
  String.intercalate "|" (set.map String.singleton)

def exactly (c : Char) : CharClass := ⟨fun x => x = c, String.singleton c⟩

def except (c : Char) : CharClass := avoiding (fun x => x = c) (String.singleton c)

def among (set : List Char) : CharClass := ⟨fun x => set.contains x, listed set⟩

def outside (set : List Char) : CharClass := avoiding (fun x => set.contains x) (listed set)

def ignoringCase (c : Char) : CharClass :=
  ⟨fun x => Chars.sameIgnoringCase x c, String.singleton c⟩

def any : CharClass := ⟨fun _ => true, "any character"⟩

def whitespace : CharClass := ⟨Chars.isSpace, "whitespace"⟩

def digit : CharClass := ⟨Chars.isDigit, "digit"⟩

def numeric : CharClass := ⟨Chars.isNumeric, "numeric character"⟩

def letter : CharClass := ⟨Chars.isLetter, "letter"⟩

def letterOrDigit : CharClass := ⟨fun c => Chars.isLetter c || Chars.isNumeric c, "letter or digit"⟩

def lower : CharClass := ⟨Chars.isLower, "lowercase letter"⟩

def upper : CharClass := ⟨Chars.isUpper, "uppercase letter"⟩

def scanner (k : CharClass) : Scanner := fun rest =>
  match rest with
  | c :: _ => if k.accepts c then .accept 1 (.char c) else Scanner.miss 0 rest k.description
  | [] => Scanner.miss 0 rest k.description

def inspect (k : CharClass) : String := "CharParser(" ++ Text.quote k.description.toList ++ ")"

end CharClass

def between (low high c : Char) : Bool := low.toNat ≤ c.toNat && c.toNat ≤ high.toNat

end Descent
