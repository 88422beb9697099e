/-
  Descent/Proofs/Chains.lean
  ==========================
  **Operator chains** — a chain is a repetition whose values are folded.

  A chain reads an operand and then, as often as it goes on consuming, an operator with an
  operand behind it.  Greedy repetition reads the same (`Parser.links`), and collects the
  values in a list.  A chain keeps no list: it combines as it reads, or it keeps the values
  that wait for what follows and combines them from the last one back.  Either way it makes
  a fold of what the repetition collects (`Matcher.chainLeft_eq`, `Matcher.chainRight_eq`),
  so the two kinds of chain differ in their values alone.

  How often a chain combines cannot be seen from its value, but it can be seen from the
  value of a chain that keeps a record of that (`Value.recorded`).
-/
import Descent.Proofs.Continuation
import Descent.Proofs.Fixed

namespace Descent

/-! ### Folding the values of a chain -/

namespace Value

variable (combine : Value → Value → Value → Value)

/-- A value combined with the operators and operands behind it, the first ones first. -/
def foldLeft (v : Value) (steps : List Value) : Value :=
  steps.foldl (fun left step => combine step.first left step.second) v

/-- A value combined with the operators and operands behind it, the last ones first. -/
def foldRight : Value → List Value → Value
  | v, [] => v
  | v, step :: steps => combine step.first v (foldRight step.second steps)

/-- The value of a chain whose first operand and whose steps behind it are a pair. -/
def fold (grouping : Grouping) (w : Value) : Value :=
  match grouping with
  | .left => foldLeft combine w.first w.second.items
  | .right => foldRight combine w.first w.second.items

/-! ### Keeping record -/

/-- Combine two values with the records of what they were combined with. -/
def recorded (tag left right : Value) : Value :=
  .pair (.list (left.first.items ++ right.first.items ++ [tag]))
    (combine tag left.second right.second)

def unrecorded (v : Value) : Value := .pair (.list []) v

def unrecordedStep (step : Value) : Value := .pair step.first step.second.unrecorded

def operators (grouping : Grouping) (w : Value) : List Value :=
  match grouping with
  | .left => w.second.items.map first
  | .right => (w.second.items.map first).reverse

variable {combine}

theorem foldLeft_recorded (before : List Value) (v : Value) (steps : List Value) :
    foldLeft (recorded combine) (.pair (.list before) v) (steps.map unrecordedStep) =
      .pair (.list (before ++ steps.map first)) (foldLeft combine v steps) := by
  induction steps generalizing before v with
  | nil =>
    rw [List.map_nil, List.map_nil, List.append_nil]
    rfl
  | cons step steps ih =>
    have hstep : recorded combine step.first (.pair (.list before) v) step.second.unrecorded =
        .pair (.list (before ++ [step.first])) (combine step.first v step.second) := by
      rw [recorded, first, unrecorded, first, items, items, List.append_nil]
      rfl
    have hrest := ih (before ++ [step.first]) (combine step.first v step.second)
    rw [List.append_assoc, List.singleton_append, ← hstep] at hrest
    exact hrest

theorem foldRight_recorded (v : Value) (steps : List Value) :
    foldRight (recorded combine) v.unrecorded (steps.map unrecordedStep) =
      .pair (.list (steps.map first).reverse) (foldRight combine v steps) := by
  induction steps generalizing v with
  | nil => rfl
  | cons step steps ih =>
    have hstep : foldRight (recorded combine) v.unrecorded ((step :: steps).map unrecordedStep) =
        recorded combine step.first v.unrecorded
          (foldRight (recorded combine) step.second.unrecorded (steps.map unrecordedStep)) := rfl
    rw [hstep, ih, List.map_cons, List.reverse_cons]
    rfl

theorem fold_recorded (grouping : Grouping) (v w : Value) :
    fold (recorded combine) grouping (.pair v.unrecorded (.list (w.items.map unrecordedStep))) =
      .pair (.list (operators grouping (.pair v w))) (fold combine grouping (.pair v w)) := by
  cases grouping with
  | left => exact foldLeft_recorded [] v w.items
  | right => exact foldRight_recorded v w.items

end Value

/-! ### Functions of the values -/

namespace Matcher

variable {σ : Type} {m : Matcher σ} {c : Cursor} {s : σ}

def mapOutcome (f : Value → Value) : Option (Reply × σ) → Option (Reply × σ) :=
  Option.map fun (r, s) => (r.mapValue f, s)

theorem mapOutcome_eq (f : Value → Value) (x : Option (Reply × σ)) :
    mapOutcome f x = resume (fun v d s => succeed (f v) d s) fail x := by
  rcases x with _ | ⟨⟨v, d⟩ | g | e, s⟩ <;> rfl

theorem mapOutcome_handle (f : Value → Value)
    (onSuccess : Value → Cursor → σ → Option (Reply × σ))
    (onFailure : Failure → σ → Option (Reply × σ)) :
    mapOutcome f (m.handle c s onSuccess onFailure) =
      m.handle c s (fun v d s => mapOutcome f (onSuccess v d s))
        fun g s => mapOutcome f (onFailure g s) := by
  simp only [mapOutcome_eq, resume_handle]

theorem map_eq (f : Value → Value) (m : Matcher σ) (c : Cursor) (s : σ) :
    m.map f c s = mapOutcome f (m c s) := by
  rw [map, handle_eq, mapOutcome_eq]

theorem map_map (f g : Value → Value) (m : Matcher σ) : (m.map f).map g = m.map (g ∘ f) := by
  funext c s
  rw [map_eq, map_eq, map_eq, mapOutcome, mapOutcome, mapOutcome, Option.map_map]
  congr 1
  funext ⟨r, s'⟩
  cases r <;> rfl

theorem map_id (m : Matcher σ) : m.map id = m := by
  funext c s
  rw [map_eq]
  rcases m c s with _ | ⟨⟨v, d⟩ | g | e, s'⟩ <;> rfl

theorem and_map (f g : Value → Value) (p q : Matcher σ) :
    (p.map f).and (q.map g) = (p.and q).map fun w => .pair (f w.first) (g w.second) := by
  funext c s
  rw [map_eq, and, and, sequence, sequence, handle_map, mapOutcome_handle]
  congr 1
  funext v d s
  rw [handle_map, mapOutcome_handle]
  rfl

theorem gather_map (committed : Bool) (f : Value → Value) (fuel : Nat) (found : List Value) :
    gather committed (m.map f) fuel (found.map f) =
      (gather committed m fuel found).map fun w => .list (w.items.map f) := by
  induction fuel generalizing found with
  | zero => rfl
  | succ fuel ih =>
    funext c s
    have hitems : (found.map f).reverse = found.reverse.map f := List.map_reverse.symm
    rw [map, handle_gather_succ, gather, handle_map, hitems]
    congr 1
    funext v d s'
    rw [← List.map_cons, ih (v :: found)]
    rfl

theorem many_map (committed : Bool) (f : Value → Value) (m : Matcher σ) :
    many committed (m.map f) = (m.many committed).map fun w => .list (w.items.map f) := by
  funext c s
  exact congrFun (congrFun (gather_map committed f (c.rest.length + 1) []) c) s

/-! ### The loops of a chain -/

section Loops

variable {committed : Bool} {combine : Value → Value → Value → Value} {operator operand : Matcher σ}

theorem map_gather_succ (f : Value → Value) (fuel : Nat) (found : List Value) (c : Cursor) (s : σ) :
    (gather committed (operator.and operand) (fuel + 1) found).map f c s =
      sequence operator operand c s
        (fun tag right d s =>
          if d.sameSpot c then succeed (f (.list found.reverse)) c s
          else (gather committed (operator.and operand) fuel (.pair tag right :: found)).map f d s)
        fun g s =>
          if committed && g.consumedFrom c then fail g s
          else succeed (f (.list found.reverse)) c s := by
  rw [map, handle_gather_succ, handle_and]
  rfl

/-- A chain that combines as it reads has combined what the repetition has found. -/
theorem chainLeft_eq (fuel : Nat) (v : Value) (found : List Value) :
    chainLeft committed combine operator operand fuel (Value.foldLeft combine v found.reverse) =
      (gather committed (operator.and operand) fuel found).map
        fun w => Value.foldLeft combine v w.items := by
  induction fuel generalizing found with
  | zero => rfl
  | succ fuel ih =>
    funext c s
    rw [map_gather_succ, chainLeft]
    congr 1
    funext tag right d s
    have hstep : combine tag (Value.foldLeft combine v found.reverse) right =
        Value.foldLeft combine v (.pair tag right :: found : List Value).reverse := by
      rw [List.reverse_cons, Value.foldLeft, Value.foldLeft, List.foldl_append]
      rfl
    rw [hstep, ih]
    rfl

/-- A chain that combines from the last value back is left with the fold of what the
    repetition has found and of what is still to come, whatever that is. -/
theorem chainRight_eq (fuel : Nat) (v : Value) (found : List Value) (waiting : List (Value × Value))
    (value : Value)
    (hwaiting : ∀ steps, waiting.foldl (fun right (left, tag) => combine tag left right)
      (Value.foldRight combine value steps) = Value.foldRight combine v (found.reverse ++ steps)) :
    chainRight committed combine operator operand fuel waiting value =
      (gather committed (operator.and operand) fuel found).map
        fun w => Value.foldRight combine v w.items := by
  induction fuel generalizing found waiting value with
  | zero => rfl
  | succ fuel ih =>
    funext c s
    have hclose : waiting.foldl (fun right (left, tag) => combine tag left right) value =
        Value.foldRight combine v found.reverse := by
      have hnone := hwaiting []
      rw [List.append_nil] at hnone
      exact hnone
    rw [map_gather_succ, chainRight]
    simp only [hclose]
    congr 1
    funext tag right d s
    have hmore : ∀ steps, ((value, tag) :: waiting).foldl
        (fun right (left, tag) => combine tag left right) (Value.foldRight combine right steps) =
        Value.foldRight combine v ((.pair tag right :: found : List Value).reverse ++ steps) := by
      intro steps
      rw [List.reverse_cons, List.append_assoc, List.singleton_append, ← hwaiting]
      rfl
    rw [ih _ _ _ hmore]
    rfl

/-- **A chain folds what a repetition collects.** -/
theorem chain_eq (committed : Bool) (grouping : Grouping) (combine : Value → Value → Value → Value)
    (operator operand : Matcher σ) :
    chain committed grouping combine operator operand =
      (operand.and (many committed (operator.and operand))).map (Value.fold combine grouping) := by
  funext c s
  rw [map_eq, and, sequence, mapOutcome_handle, chain]
  congr 1
  funext v d s
  rw [mapOutcome_handle]
  cases grouping with
  | left => exact congrFun (congrFun (chainLeft_eq (d.rest.length + 1) v []) d) s
  | right =>
    exact congrFun (congrFun (chainRight_eq (d.rest.length + 1) v [] [] v fun _ => rfl) d) s

end Loops

/-- A chain whose operands come without records combines once for each operator. -/
theorem chain_recorded (committed : Bool) (grouping : Grouping)
    (combine : Value → Value → Value → Value) (operator operand : Matcher σ) :
    chain committed grouping (Value.recorded combine) operator (operand.map Value.unrecorded) =
      (operand.and (many committed (operator.and operand))).map fun w =>
        .pair (.list (w.operators grouping)) (w.fold combine grouping) := by
  have hstep : operator.and (operand.map Value.unrecorded) =
      (operator.and operand).map Value.unrecordedStep := by
    have hand := and_map id Value.unrecorded operator operand
    rw [map_id] at hand
    exact hand
  have hfold : (Value.fold (Value.recorded combine) grouping ∘ fun w : Value =>
        Value.pair w.first.unrecorded (.list (w.second.items.map Value.unrecordedStep))) =
      fun w : Value => .pair (.list (w.operators grouping)) (w.fold combine grouping) := by
    funext w
    rw [Function.comp_apply, Value.fold_recorded]
    cases grouping <;> rfl
  calc chain committed grouping (Value.recorded combine) operator (operand.map Value.unrecorded)
    _ = ((operand.map Value.unrecorded).and
          ((many committed (operator.and operand)).map fun w =>
            .list (w.items.map Value.unrecordedStep))).map
          (Value.fold (Value.recorded combine) grouping) := by
        rw [chain_eq, hstep, many_map]
    _ = _ := by rw [and_map, map_map, hfold]

end Matcher

/-! ### Chains of parsers -/

/-- An operand, and behind it operators with operands; the value is the pair of the first
    operand and the list of the pairs behind it. -/
def Parser.links (committed : Bool) (operator operand : Parser) : Parser :=
  .and operand (.many committed (.and operator operand))

/-- **Operator chains are folds of one sequence.**  A chain does what is done by its operand
    and a greedy repetition of its operator and operand behind it, which is committed if the
    chain is, and folds the values from the side that it groups at.  So the two kinds of
    chain differ in nothing but the value: with any one value in place of theirs, they are
    the same.  A chain combines once for each operator that the repetition collects, from
    the first to the last or from the last to the first: this is the record of one that
    keeps record. -/
theorem Parser.chain_folded {σ : Type} [Traced σ] (call : Handle → Matcher σ) (committed : Bool)
    (combine : Value → Value → Value → Value) (operator operand : Parser) :
    (∀ grouping, (Parser.chain committed grouping combine operator operand).matcher call =
      (Parser.map (Value.fold combine grouping) (.links committed operator operand)).matcher call) ∧
    (∀ v, ((Parser.chain committed .left combine operator operand).yielding v).matcher call =
      ((Parser.chain committed .right combine operator operand).yielding v).matcher call) ∧
    ∀ grouping, (Parser.chain committed grouping (Value.recorded combine) operator
        (.map Value.unrecorded operand)).matcher call =
      (Parser.map (fun w => .pair (.list (w.operators grouping)) (w.fold combine grouping))
        (.links committed operator operand)).matcher call := by
  refine ⟨fun grouping => Matcher.chain_eq committed grouping combine _ _, fun v => ?_,
    fun grouping => Matcher.chain_recorded committed grouping combine _ _⟩
  have hyield : ∀ grouping,
      ((Parser.chain committed grouping combine operator operand).yielding v).matcher call =
        ((Parser.links committed operator operand).yielding v).matcher call := by
    intro grouping
    have hchain := Matcher.chain_eq committed grouping combine (operator.matcher call)
      (operand.matcher call)
    have hmap := congrArg (Matcher.map fun _ => v) hchain
    rw [Matcher.map_map] at hmap
    exact hmap
  rw [hyield .left, hyield .right]

/-- Behind `3` the operator has no operand, so the chain ends in front of it. -/
example :
    let start : Cursor := .start ['1', '-', '2', '-', '3', '-']
    (World.run (.chain false .right Value.bracket (.string "-") (.char .digit)) start .empty).map
      Prod.fst = some (.success (.str "(1-(2-3))") (start.skip 5)) := rfl

end Descent
