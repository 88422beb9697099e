/-
  Descent/Text/Quoted.lean
  ========================
  **Quoted text** — a text between double quotes, on one line, with nothing hidden.

  The quote and the backslash are escaped, the common controls have short escapes,
  and every other character that cannot be shown as it is (`Chars.isPrintable`) is
  written by its code point in hexadecimal.
-/
import Descent.Chars.Printable

namespace Descent.Text

def escape (c : Char) : List Char :=
  match c with
  | '\x00' => ['\\', '0']
  | '\t' => ['\\', 't']
  | '\r' => ['\\', 'r']
  | '\n' => ['\\', 'n']
  | '\\' => ['\\', '\\']
  | '"' => ['\\', '"']
  | c =>
    if Chars.isPrintable c then [c]
    else ['\\', 'u', '\x7b'] ++ Nat.toDigits 16 c.toNat ++ ['\x7d']

/-- A text between quotes. -/
def quote (cs : List Char) : String :=
  String.ofList (['"'] ++ cs.flatMap escape ++ ['"'])

end Descent.Text
