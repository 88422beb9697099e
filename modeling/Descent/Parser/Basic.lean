/-
  Descent/Parser/Basic.lean
  =========================
  **Parsers** — grammars as data.

  A parser is a tree of combinators over primitive readers and rules.  What it means
  is defined elsewhere (`Parser.matcher`), one combinator at a time; here stand the
  tree, the names under which grammars use it, and the strong handles it holds,
  which is what keeps rules alive.

  The committed forms of a combinator take a failure behind consumed text as final,
  where the free forms go on as if nothing had been read.
-/
import Descent.CharClass
import Descent.Rule
import Descent.Verdict

namespace Descent

/-- Which operand of a chain is grouped first. -/
inductive Grouping where
  | left
  | right
  deriving DecidableEq, Repr

/-- A grammar. -/
inductive Parser where
  /-- A primitive reader of the unread text. -/
  | scan (read : Scanner)
  /-- A primitive reader that may also look at the place and at the text before it. -/
  | inspect (read : Cursor → Verdict)
  | map (f : Value → Value) (p : Parser)
  /-- One parser behind the other; the value is the pair of both values. -/
  | and (p q : Parser)
  /-- A parser, then one that depends on its value.  `held` are the handles that the
      parsers to come hold. -/
  | bind (p : Parser) (held : List Handle) (next : Value → Parser)
  /-- A parser whose reply, also a failure, decides how to go on from its start. -/
  | attempt (p : Parser) (held : List Handle) (onSuccess : Value → Cursor → Parser)
      (onFailure : Failure → Parser)
  /-- A parser whose value a test has to keep. -/
  | filter (p : Parser) (keep : Value → Bool) (message : String)
  | text (p : Parser)
  /-- The value with the stretch of text that it is for. -/
  | positioned (p : Parser)
  /-- One name in place of what a parser expects at its start. -/
  | named (p : Parser) (label : String)
  | choice (committed : Bool) (p q : Parser)
  /-- As often as it goes on consuming; the value is the list of all values. -/
  | many (committed : Bool) (p : Parser)
  | repeated (p : Parser) (least most : Option Nat)
  | optional (committed : Bool) (p : Parser)
  | preview (p : Parser)
  | absent (p : Parser) (message : String) (labels : List String)
  /-- A first parser, then a tail as often as it goes on consuming; the value is the
      text of all. -/
  | identifier (first tail : Parser)
  /-- Operands with operators between them, combined from one side. -/
  | chain (committed : Bool) (grouping : Grouping) (combine : Value → Value → Value → Value)
      (operator operand : Parser)
  | counted (label : String) (p : Parser)
  | rule (handle : Handle)

namespace Parser

def handles : Parser → List Handle
  | .scan _ | .inspect _ => []
  | .rule h => [h]
  | .map _ p | .filter p _ _ | .text p | .positioned p | .named p _ | .many _ p
  | .repeated p _ _ | .optional _ p | .preview p | .absent p _ _ | .counted _ p => p.handles
  | .and p q | .choice _ p q | .identifier p q | .chain _ _ _ p q => p.handles ++ q.handles
  | .bind p held _ | .attempt p held _ _ => p.handles ++ held

/-! ### Primitive readers -/

def char (k : CharClass) : Parser := .scan k.scanner

def string (s : String) : Parser := .scan (.literal false s)

def stringIgnoringCase (s : String) : Parser := .scan (.literal true s)

def succeed (v : Value) : Parser := .scan (.succeed v)

def endOfInput : Parser := .scan .endOfInput

def take (n : Nat) : Parser := .scan (.take n)

/-- A failure `n` characters further on. -/
def failing (n : Nat) (message : String) (labels : List String) : Parser :=
  .scan (.fail n message labels)

def refusing (label : String) : Parser := .scan fun rest => Scanner.miss 0 rest label

/-- Where the cursor stands, what was read before it, and whether the text ends. -/
def probe : Parser := .inspect fun c =>
  .accept 0 (.list [.int (Int64.ofNat c.position.offset), .int (Int64.ofNat c.position.line),
    .int (Int64.ofNat c.position.column), .str (String.ofList c.recent), .bool c.atEnd])

/-! ### Sequences -/

def yielding (p : Parser) (v : Value) : Parser := .map (fun _ => v) p

def concat (p q : Parser) : Parser := .map Value.joinPair (.and p q)

def before (p q : Parser) : Parser := .map Value.first (.and p q)

def behind (p q : Parser) : Parser := .map Value.second (.and p q)

def contained (p opening closing : Parser) : Parser := behind opening (before p closing)

/-- A parser with blanks on both sides. -/
def token (p : Parser) : Parser :=
  let blanks := Parser.many false (char .whitespace)
  contained p blanks blanks

def complete (p : Parser) : Parser := before p endOfInput

def followedBy (p q : Parser) : Parser := .bind p q.handles fun _ => q

def echoed (p : Parser) : Parser := .bind p [] fun v => string v.text

def echoedIgnoringCase (p : Parser) : Parser := .bind p [] fun v => stringIgnoringCase v.text

/-! ### Choice, repetition and look ahead -/

def or (p q : Parser) : Parser := .choice false p q

/-- One parser or else the other, unless the first failed behind consumed text. -/
def xor (p q : Parser) : Parser := .choice true p q

def once (p : Parser) : Parser := .map Value.wrap p

/-- Once, then as often as it goes on consuming. -/
def atLeastOnce (committed : Bool) (p : Parser) : Parser :=
  .map Value.consPair (.and p (.many committed p))

/-- Items with delimiters between them; the value is the list of the items. -/
def delimited (committed : Bool) (p delimiter : Parser) : Parser :=
  .map Value.consSeconds (.and p (.many committed (.and delimiter p)))

/-- A parser as often as the first one's value counts. -/
def timesRead (p q : Parser) : Parser :=
  .bind p q.handles fun v => .repeated q (some v.asCount) (some v.asCount)

def not (p : Parser) : Parser := .absent p "negative lookahead failed: unexpected match" []

def except (p e : Parser) : Parser :=
  behind (.absent e "excepted parser succeeded" ["other than the excepted input"]) p

/-- A parser as often as it takes to come to a terminator, and the terminator. -/
def upTo (p terminator : Parser) : Parser :=
  before (.many false (p.except terminator)) terminator

/-! ### Selection by text -/

/-- The parser that stands behind a text in a list of branches. -/
def select (branches : List (String × Parser)) (other : Parser) (v : Value) : Parser :=
  match branches.find? (fun branch => v.hasText branch.1) with
  | some branch => branch.2
  | none => other

/-- A parser, then the branch that its text selects. -/
def switch (p : Parser) (branches : List (String × Parser)) (other : Parser) : Parser :=
  .bind p (branches.flatMap (·.2.handles) ++ other.handles) (select branches other)

end Parser

end Descent
