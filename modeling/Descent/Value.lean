/-
  Descent/Value.lean
  ==================
  **Values** — what a grammar makes of the text it reads.

  Grammars are put together at run time, so all their values have one type.  The
  text of a value (`Value.text`) forgets its shape: it is the concatenation of all
  characters and strings in it, from left to right.

  Integers are words of 64 bits and wrap around.
-/
import Descent.Span
import Descent.Text.Numeral

namespace Descent

/-- What a grammar makes of a text. -/
inductive Value where
  | unit
  | bool (b : Bool)
  | int (n : Int64)
  | char (c : Char)
  | str (s : String)
  | list (items : List Value)
  | pair (first second : Value)
  | absent
  | present (v : Value)
  | span (v : Value) (stretch : Span)
  deriving Inhabited, Repr

namespace Value

mutual

def chars : Value → List Char
  | .unit | .absent => []
  | .bool b => if b then ['t', 'r', 'u', 'e'] else ['f', 'a', 'l', 's', 'e']
  | .int n => (toString n.toInt).toList
  | .char c => [c]
  | .str s => s.toList
  | .list items => charsAll items
  | .pair a b => chars a ++ chars b
  | .present v => chars v
  | .span v _ => chars v

def charsAll : List Value → List Char
  | [] => []
  | v :: vs => chars v ++ charsAll vs

end

def text (v : Value) : String := String.ofList v.chars

/-! ### Reshaping -/

def asText (v : Value) : Value := .str v.text

/-- The integer that the text of a value writes; zero if it writes none. -/
def asInt (v : Value) : Value := .int ((Text.readInt64 v.chars).getD 0)

/-- The items of a list; any other value counts as a list of one. -/
def items : Value → List Value
  | .list vs => vs
  | v => [v]

def negate : Value → Value
  | .int n => .int (-n)
  | v => v

def increment : Value → Value
  | .int n => .int (n + 1)
  | v => v

def size : Value → Value
  | .list vs => .int (Int64.ofNat vs.length)
  | v => .int (Int64.ofNat v.chars.length)

def first : Value → Value
  | .pair a _ => a
  | v => v

def second : Value → Value
  | .pair _ b => b
  | v => v

def wrap (v : Value) : Value := .list [v]

/-- The text of the value in a span, for the same stretch; any other value stays. -/
def spanText : Value → Value
  | .span v stretch => .span v.asText stretch
  | v => v

def joinPair : Value → Value
  | .pair a b => .list (a.items ++ b.items)
  | v => v

def consPair : Value → Value
  | .pair a b => .list (a :: b.items)
  | v => v

/-- The second of each pair of a list, behind the value in front of it. -/
def consSeconds : Value → Value
  | .pair a b => .list (a :: b.items.map second)
  | v => v

/-! ### Tests -/

def isInt64 (v : Value) : Bool := (Text.readInt64 v.chars).isSome

def isByte (v : Value) : Bool := (Text.readByte v.chars).isSome

def isNonempty (v : Value) : Bool := !v.chars.isEmpty

def hasText (s : String) (v : Value) : Bool := v.text = s

def longerThan (n : Nat) (v : Value) : Bool := n < v.chars.length

/-- The repeat count that a value writes: one to three ASCII digits, else zero. -/
def asCount (v : Value) : Nat :=
  if v.chars.length ≤ 3 then (Text.readDigits v.chars).getD 0 else 0

/-! ### Combining two operands -/

/-- Quotient towards zero; zero where it is not defined or does not fit. -/
def quotient (a b : Int64) : Int64 :=
  if b = 0 ∨ (a = Int64.minValue ∧ b = -1) then 0 else a / b

/-- Arithmetic by the text of the operator; the left side where it does not apply. -/
def calculate (operator left right : Value) : Value :=
  match left, right with
  | .int a, .int b =>
    match operator.chars with
    | ['+'] => .int (a + b)
    | ['-'] => .int (a - b)
    | ['*'] => .int (a * b)
    | ['/'] => .int (quotient a b)
    | _ => left
  | _, _ => left

def bracket (operator left right : Value) : Value :=
  .str ("(" ++ left.text ++ operator.text ++ right.text ++ ")")

def tree (operator left right : Value) : Value := .list [operator, left, right]

end Value

end Descent
