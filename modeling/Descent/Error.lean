/-
  Descent/Error.lean
  ==================
  **Errors** — why a grammar gave no value, told to the one who asked for it.

  A syntax error is about the text; it comes with the last characters that were
  consumed and a snippet of the source.  Every other error is about the grammar:
  it is broken, or could not be built.
-/
import Descent.Reply
import Descent.Snippet

namespace Descent

inductive CommentKind where
  | singleLine
  | multiLine
  deriving DecidableEq, Repr

def CommentKind.render : CommentKind → String
  | .singleLine => "single-line"
  | .multiLine => "multi-line"

/-- Why a grammar gave no value. -/
inductive Error where
  /-- The text is not of the grammar. -/
  | mismatch (message : String) (expectations : List String) (place : Position)
      (recent : List Char) (snippet : List String)
  | leftRecursion (rule : RuleId) (place : Position)
  | undefinedRule (rule : RuleId) (place : Position)
  | ruleRedefined (rule : RuleId)
  /-- A comment of a kind that the comment style has switched off. -/
  | commentDisabled (kind : CommentKind)
  | invalidPattern
  | unknownName (name : String)
  deriving DecidableEq, Repr

namespace Error

def place? : Error → Option Position
  | .mismatch _ _ p _ _ | .leftRecursion _ p | .undefinedRule _ p => some p
  | _ => none

def expectations : Error → List String
  | .mismatch _ labels _ _ _ => labels
  | _ => []

/-- Whether the grammar is to blame, not the text. -/
def isDefect : Error → Bool
  | .mismatch .. => false
  | _ => true

def kind : Error → String
  | .mismatch .. => "Syntax"
  | .leftRecursion .. => "LeftRecursion"
  | .undefinedRule .. => "UndefinedRule"
  | .ruleRedefined _ => "RuleRedefined"
  | .commentDisabled _ => "CommentStyleDisabled"
  | .invalidPattern => "InvalidPattern"
  | .unknownName _ => "BadInput"

def render : Error → String
  | .mismatch message labels p recent snippet =>
    "Parsing failure: " ++ message ++ ";" ++ expectedClause labels ++ " (" ++ p.render ++
      "); recently consumed: " ++ String.ofList recent ++ "\n\n" ++ String.intercalate "\n" snippet
  | .leftRecursion r p =>
    "left recursion in the grammar: rule " ++ r.render ++ " re-entered at " ++ p.render
  | .undefinedRule r p =>
    "rule " ++ r.render ++ " was used at " ++ p.render ++ " before it was defined"
  | .ruleRedefined r => "rule " ++ r.render ++ " is already defined"
  | .commentDisabled k => k.render ++ " comments are disabled in this comment style"
  | .invalidPattern => "invalid pattern"
  | .unknownName name => "nothing is kept under the name " ++ name

end Error

def Failure.toError (f : Failure) : Error :=
  .mismatch f.message f.expectations f.remainder.position f.remainder.recent
    (Snippet.lines f.remainder.source f.remainder.position)

def Defect.toError : Defect → Error
  | .leftRecursion r c => .leftRecursion r c.position
  | .undefinedRule r c => .undefinedRule r c.position

end Descent
