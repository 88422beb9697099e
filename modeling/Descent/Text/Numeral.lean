/-
  Descent/Text/Numeral.lean
  =========================
  **Reading numerals** — decimal numbers of a fixed width.

  A numeral is one or more ASCII digits; leading zeros are allowed.  In front of it
  a word of 64 bits takes either sign, a byte only a plus.  A numeral whose value
  does not fit is no numeral of that width.
-/
import Descent.Chars.Numeric

namespace Descent.Text

/-- The value of a list of digits behind a value read so far. -/
def digitsValue : Nat → List Char → Nat
  | n, [] => n
  | n, c :: cs => digitsValue (n * 10 + (c.toNat - 0x30)) cs

/-- The value of one or more ASCII digits. -/
def readDigits (cs : List Char) : Option Nat :=
  if !cs.isEmpty && cs.all Chars.isDigit then some (digitsValue 0 cs) else none

def readInteger : List Char → Option Int
  | '-' :: cs => (readDigits cs).map fun n => -(n : Int)
  | '+' :: cs => (readDigits cs).map fun n => (n : Int)
  | cs => (readDigits cs).map fun n => (n : Int)

def readInt64 (cs : List Char) : Option Int64 :=
  (readInteger cs).bind fun n =>
    if Int64.minValue.toInt ≤ n ∧ n ≤ Int64.maxValue.toInt then some (Int64.ofInt n) else none

def readByte (cs : List Char) : Option UInt8 :=
  let digits := match cs with
    | '+' :: cs => cs
    | cs => cs
  (readDigits digits).bind fun n => if n < 256 then some (UInt8.ofNat n) else none

end Descent.Text
