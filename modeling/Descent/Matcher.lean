/-
  Descent/Matcher.lean
  ====================
  **Matchers** — what the combinators do.

  A matcher reads from a cursor, in a state in which it may leave traces, and comes
  back with a reply and the state.  It may also not come back: `none` stands for a
  run without end.  The state is a parameter, so that nothing here depends on how
  rules are kept.

  Every combinator looks at the reply of another matcher through `Matcher.handle`,
  which hands it a success or an ordinary failure and passes a defect on.  So no
  combinator can recover from a defect, hold one back or change it.

  A loop that stops once nothing more is consumed goes round at most once for each
  unread character and once more to notice the end.  That number is the fuel of each
  loop here; a matcher that never moves backwards cannot exhaust it.
-/
import Descent.Journal
import Descent.Parser.Basic
import Descent.Reply

namespace Descent

/-- A reader of texts that keeps a state. -/
abbrev Matcher (σ : Type) := Cursor → σ → Option (Reply × σ)

namespace Matcher

variable {σ : Type}

/-- Go on behind a success or an ordinary failure; a defect is passed on. -/
@[inline] def handle (p : Matcher σ) (c : Cursor) (s : σ)
    (onSuccess : Value → Cursor → σ → Option (Reply × σ))
    (onFailure : Failure → σ → Option (Reply × σ)) : Option (Reply × σ) :=
  match p c s with
  | none => none
  | some (.success v d, s) => onSuccess v d s
  | some (.failure f, s) => onFailure f s
  | some (.defect e, s) => some (.defect e, s)

section Handle

variable {p : Matcher σ} {c : Cursor} {s s' : σ}
  {onSuccess : Value → Cursor → σ → Option (Reply × σ)}
  {onFailure : Failure → σ → Option (Reply × σ)}

theorem handle_of_none (h : p c s = none) : p.handle c s onSuccess onFailure = none := by
  simp [handle, h]

theorem handle_of_success {v : Value} {d : Cursor} (h : p c s = some (.success v d, s')) :
    p.handle c s onSuccess onFailure = onSuccess v d s' := by
  simp [handle, h]

theorem handle_of_failure {f : Failure} (h : p c s = some (.failure f, s')) :
    p.handle c s onSuccess onFailure = onFailure f s' := by
  simp [handle, h]

/-- **A defect is passed on**, with the state in which it was raised. -/
theorem handle_of_defect {e : Defect} (h : p c s = some (.defect e, s')) :
    p.handle c s onSuccess onFailure = some (.defect e, s') := by
  simp [handle, h]

end Handle

def succeed (v : Value) (c : Cursor) (s : σ) : Option (Reply × σ) := some (.success v c, s)

def fail (f : Failure) (s : σ) : Option (Reply × σ) := some (.failure f, s)

/-! ### Primitive readers -/

def conclude (c : Cursor) : Verdict → Reply
  | .accept n v => .success v (c.skip n)
  | .refuse n message labels => .failure (.of (c.skip n) message labels)

def inspect (read : Cursor → Verdict) : Matcher σ := fun c s => some (conclude c (read c), s)

/-! ### One after the other -/

def map (f : Value → Value) (p : Matcher σ) : Matcher σ := fun c s =>
  p.handle c s (fun v d s => succeed (f v) d s) fail

/-- One matcher behind the other, then whatever becomes of their values. -/
@[inline] def sequence (p q : Matcher σ) (c : Cursor) (s : σ)
    (onSuccess : Value → Value → Cursor → σ → Option (Reply × σ))
    (onFailure : Failure → σ → Option (Reply × σ)) : Option (Reply × σ) :=
  p.handle c s (fun v d s => q.handle d s (fun w e s => onSuccess v w e s) onFailure) onFailure

def and (p q : Matcher σ) : Matcher σ := fun c s =>
  sequence p q c s (fun v w d s => succeed (.pair v w) d s) fail

def bind (p : Matcher σ) (next : Value → Matcher σ) : Matcher σ := fun c s =>
  p.handle c s (fun v d s => next v d s) fail

/-- A matcher, then one that depends on its reply, from the same place. -/
def attempt (p : Matcher σ) (onSuccess : Value → Cursor → Matcher σ)
    (onFailure : Failure → Matcher σ) : Matcher σ := fun c s =>
  p.handle c s (fun v d s => onSuccess v d c s) (fun f s => onFailure f c s)

/-! ### Changing a reply -/

def filter (p : Matcher σ) (keep : Value → Bool) (message : String) : Matcher σ := fun c s =>
  p.handle c s (fun v d s => if keep v then succeed v d s else fail (.of c message []) s) fail

def text (p : Matcher σ) : Matcher σ := fun c s =>
  p.handle c s (fun _ d s => succeed (.str (String.ofList (c.sliceTo d))) d s) fail

def positioned (p : Matcher σ) : Matcher σ := fun c s =>
  p.handle c s (fun v d s => succeed (.span v ⟨c.position, d.position⟩) d s) fail

/-- One name in place of what is expected at the start. -/
def named (p : Matcher σ) (label : String) : Matcher σ := fun c s =>
  p.handle c s succeed fun f s => fail (if f.consumedFrom c then f else f.relabel label) s

/-! ### Choice -/

/-- One matcher or else the other.  A success of the first that consumed something
    stands; one that consumed nothing stands unless the second succeeds.  Of two
    failures the furthest stands.  A committed choice does not try the second if the
    first failed behind consumed text. -/
def choice (committed : Bool) (p q : Matcher σ) : Matcher σ := fun c s =>
  p.handle c s
    (fun v d s =>
      if d.sameSpot c then q.handle c s succeed (fun _ s => succeed v d s) else succeed v d s)
    (fun f s =>
      if committed && f.consumedFrom c then fail f s
      else q.handle c s succeed (fun g s => fail (f.furthest g) s))

def optional (committed : Bool) (p : Matcher σ) : Matcher σ := fun c s =>
  p.handle c s (fun v d s => succeed (.present v) d s)
    (fun f s => if committed && f.consumedFrom c then fail f s else succeed .absent c s)

/-! ### Looking ahead -/

def preview (p : Matcher σ) : Matcher σ := fun c s =>
  p.handle c s (fun v _ s => succeed (.present v) c s) (fun _ s => succeed .absent c s)

/-- Look ahead, and fail where a matcher succeeds. -/
def absent (p : Matcher σ) (message : String) (labels : List String) : Matcher σ := fun c s =>
  p.handle c s (fun _ _ s => fail (.of c message labels) s) (fun _ s => succeed .unit c s)

/-! ### Repetition -/

/-- As often as it goes on consuming.  `found` are the values so far, the last one
    first. -/
def gather (committed : Bool) (p : Matcher σ) :
    (fuel : Nat) → (found : List Value) → Matcher σ
  | 0, _, _, _ => none
  | fuel + 1, found, c, s =>
    p.handle c s
      (fun v d s =>
        if d.sameSpot c then succeed (.list found.reverse) c s
        else gather committed p fuel (v :: found) d s)
      (fun f s =>
        if committed && f.consumedFrom c then fail f s else succeed (.list found.reverse) c s)

def many (committed : Bool) (p : Matcher σ) : Matcher σ := fun c s =>
  gather committed p (c.rest.length + 1) [] c s

/-- A first matcher's text and that of a tail, as often as it goes on consuming. -/
def trail (tail : Matcher σ) (start : Cursor) : (fuel : Nat) → Matcher σ
  | 0, _, _ => none
  | fuel + 1, c, s =>
    tail.handle c s
      (fun _ d s =>
        if d.sameSpot c then succeed (.str (String.ofList (start.sliceTo c))) c s
        else trail tail start fuel d s)
      (fun _ s => succeed (.str (String.ofList (start.sliceTo c))) c s)

/-- A first matcher, then a tail as often as it goes on consuming; the value is the
    text of all. -/
def identifier (first tail : Matcher σ) : Matcher σ := fun c s =>
  first.handle c s (fun _ d s => trail tail c (d.rest.length + 1) d s) fail

/-! ### Counted repetition -/

/-- What a repetition asked for and did not get. -/
def shortfall (least : Nat) (most : Option Nat) (wanted : String) (found : Nat) : String :=
  match most with
  | some most =>
    if most = least then s!"'{wanted}' {least} times, but found {found}"
    else s!"'{wanted}' between {least} and {most} times, but found {found}"
  | none => s!"'{wanted}' minimum {least} times, but found {found}"

/-- What stands at a cursor, in the words of a repetition that fell short. -/
def standing (c : Cursor) : String :=
  match c.current? with
  | some ch => String.singleton ch
  | none => "end of input"

/-- The end of a repetition from `start` that stopped at `c`, because of a failure or
    because the upper bound was reached. -/
def settle [Traced σ] (least most : Option Nat) (start : Cursor) (found : List Value)
    (c : Cursor) (stop : Option Failure) (s : σ) : Option (Reply × σ) :=
  let least := least.getD 0
  if found.length < least then
    let place := (stop.map (·.remainder)).getD c
    let wanted := String.intercalate ", " ((stop.map (·.expectations)).getD [])
    fail (.of start ("unexpected '" ++ standing place ++ "'")
        [shortfall least most wanted found.length])
      (Traced.note (.fellShort place) s)
  else succeed (.list found.reverse) c s

/-- A number of times.  With an upper bound the fuel is what is left of it, and the
    repetition ends with it; without one it bounds the run. -/
def times (bounded : Bool) (p : Matcher σ)
    (finish : List Value → Cursor → Option Failure → σ → Option (Reply × σ)) :
    (fuel : Nat) → (found : List Value) → Matcher σ
  | 0, found, c, s => if bounded then finish found c none s else none
  | fuel + 1, found, c, s =>
    p.handle c s (fun v d s => times bounded p finish fuel (v :: found) d s)
      (fun f s => finish found c (some f) s)

def repeated [Traced σ] (p : Matcher σ) (least most : Option Nat) : Matcher σ := fun c s =>
  times most.isSome p (settle least most c) (most.getD (c.rest.length + 1)) [] c s

/-! ### Chains -/

/-- Operators and operands behind a first value, combined as they are read. -/
def chainLeft (committed : Bool) (combine : Value → Value → Value → Value)
    (operator operand : Matcher σ) : (fuel : Nat) → (value : Value) → Matcher σ
  | 0, _, _, _ => none
  | fuel + 1, value, c, s =>
    sequence operator operand c s
      (fun tag right d s =>
        if d.sameSpot c then succeed value c s
        else chainLeft committed combine operator operand fuel (combine tag value right) d s)
      (fun f s => if committed && f.consumedFrom c then fail f s else succeed value c s)

/-- Operators and operands behind a first value, combined from the last one back.
    `waiting` are the values with the operators behind them, the last one first. -/
def chainRight (committed : Bool) (combine : Value → Value → Value → Value)
    (operator operand : Matcher σ) :
    (fuel : Nat) → (waiting : List (Value × Value)) → (value : Value) → Matcher σ
  | 0, _, _, _, _ => none
  | fuel + 1, waiting, value, c, s =>
    let close := waiting.foldl (fun right (left, tag) => combine tag left right) value
    sequence operator operand c s
      (fun tag right d s =>
        if d.sameSpot c then succeed close c s
        else
          chainRight committed combine operator operand fuel ((value, tag) :: waiting) right d s)
      (fun f s => if committed && f.consumedFrom c then fail f s else succeed close c s)

def chain (committed : Bool) (grouping : Grouping) (combine : Value → Value → Value → Value)
    (operator operand : Matcher σ) : Matcher σ := fun c s =>
  operand.handle c s
    (fun v d s =>
      match grouping with
      | .left => chainLeft committed combine operator operand (d.rest.length + 1) v d s
      | .right => chainRight committed combine operator operand (d.rest.length + 1) [] v d s)
    fail

/-! ### Traces -/

def counted [Traced σ] (label : String) (p : Matcher σ) : Matcher σ := fun c s =>
  p c (Traced.tally label s)

end Matcher

/-- What a parser does, given what its rules do. -/
def Parser.matcher {σ : Type} [Traced σ] (call : Handle → Matcher σ) : Parser → Matcher σ
  | .scan read => .inspect fun c => read c.rest
  | .inspect read => .inspect read
  | .map f p => .map f (p.matcher call)
  | .and p q => .and (p.matcher call) (q.matcher call)
  | .bind p _ next => .bind (p.matcher call) fun v => (next v).matcher call
  | .attempt p _ onSuccess onFailure =>
    .attempt (p.matcher call) (fun v d => (onSuccess v d).matcher call)
      fun f => (onFailure f).matcher call
  | .filter p keep message => .filter (p.matcher call) keep message
  | .text p => .text (p.matcher call)
  | .positioned p => .positioned (p.matcher call)
  | .named p label => .named (p.matcher call) label
  | .choice committed p q => .choice committed (p.matcher call) (q.matcher call)
  | .many committed p => .many committed (p.matcher call)
  | .repeated p least most => .repeated (p.matcher call) least most
  | .optional committed p => .optional committed (p.matcher call)
  | .preview p => .preview (p.matcher call)
  | .absent p message labels => .absent (p.matcher call) message labels
  | .identifier first tail => .identifier (first.matcher call) (tail.matcher call)
  | .chain committed grouping combine operator operand =>
    .chain committed grouping combine (operator.matcher call) (operand.matcher call)
  | .counted label p => .counted label (p.matcher call)
  | .rule h => call h

end Descent
