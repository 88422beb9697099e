/-
  Descent/Parser/Lexeme.lean
  ==========================
  **Lexemes** — numbers, line ends and comments.

  Each of them is an ordinary grammar over the primitive readers, with a name of its
  own for what it expects.
-/
import Descent.Error
import Descent.Parser.Basic

namespace Descent

namespace Parser

/-! ### Numbers -/

def number : Parser := .named (.text (atLeastOnce false (char .digit))) "number"

/-- Digits with a separator before, between or without them; at least one digit
    follows the separator. -/
def decimal (separator : String) : Parser :=
  let fraction := Parser.and (string separator) number
  .named (xor (.text (.and number (.optional true fraction))) (.text fraction)) "decimal"

/-! ### Line ends -/

/-- The end of a line: a line feed, a carriage return, or both in this order. -/
def lineEnd : Parser := .named (or (or (string "\r\n") (string "\n")) (string "\r")) "line end"

def lineTerminator : Parser := .named (or lineEnd (yielding endOfInput (.str ""))) "new line"

end Parser

/-! ### Comments -/

structure CommentStyle where
  singleLine : Option String
  /-- What opens and closes a comment of any length. -/
  multiLine : Option (String × String)
  newline : List Char
  deriving DecidableEq, Repr

namespace CommentStyle

def standard : CommentStyle := ⟨some "//", some ("/*", "*/"), ['\n']⟩

/-- The text of a comment that ends with its line. -/
def singleLineComment (style : CommentStyle) : Except Error Parser :=
  match style.singleLine with
  | some marker =>
    .ok ((Parser.string marker).behind (.text (.many false (.char (.outside style.newline)))))
  | none => .error (.commentDisabled .singleLine)

/-- The text of a comment up to the first mark that closes it. -/
def multiLineComment (style : CommentStyle) : Except Error Parser :=
  match style.multiLine with
  | some (opening, closing) =>
    .ok ((Parser.string opening).behind
      (.map Value.asText ((Parser.char .any).upTo (.string closing))))
  | none => .error (.commentDisabled .multiLine)

/-- The text of a comment of either kind. -/
def anyComment (style : CommentStyle) : Except Error Parser :=
  match style.singleLineComment, style.multiLineComment with
  | .ok single, .ok multi => .ok (single.or multi)
  | .error e, _ => .error e
  | _, .error e => .error e

end CommentStyle

end Descent
