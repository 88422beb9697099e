/-
  Descent/Proofs/Continuation.lean
  ================================
  **Continuations** — what is done behind a matcher that itself goes on behind another one.

  Every combinator goes on behind a part of it, by `Matcher.handle`.  What is then done
  behind the combinator is done behind what it goes on with (`Matcher.resume_handle`).  So
  going on behind a sequence is going on behind its second part, and going on behind a
  repetition is one round and then going on behind the rest of it.
-/
import Descent.Matcher

namespace Descent

namespace Matcher

variable {σ : Type} {m : Matcher σ} {c : Cursor} {s : σ}
  {onSuccess onSuccess' : Value → Cursor → σ → Option (Reply × σ)}
  {onFailure onFailure' : Failure → σ → Option (Reply × σ)}

def resume (onSuccess : Value → Cursor → σ → Option (Reply × σ))
    (onFailure : Failure → σ → Option (Reply × σ)) : Option (Reply × σ) → Option (Reply × σ)
  | none => none
  | some (.success v d, s) => onSuccess v d s
  | some (.failure f, s) => onFailure f s
  | some (.defect e, s) => some (.defect e, s)

theorem handle_eq (m : Matcher σ) (c : Cursor) (s : σ) :
    m.handle c s onSuccess onFailure = resume onSuccess onFailure (m c s) := by
  rcases hrun : m c s with _ | ⟨⟨v, d⟩ | f | e, s'⟩
  · exact handle_of_none hrun
  · exact handle_of_success hrun
  · exact handle_of_failure hrun
  · exact handle_of_defect hrun

/-- To go on behind a matcher that itself goes on behind another one is to go on behind
    what that goes on with. -/
theorem resume_handle :
    resume onSuccess onFailure (m.handle c s onSuccess' onFailure') =
      m.handle c s (fun v d s => resume onSuccess onFailure (onSuccess' v d s))
        fun f s => resume onSuccess onFailure (onFailure' f s) := by
  rw [handle_eq, handle_eq]
  rcases m c s with _ | ⟨⟨v, d⟩ | f | e, s'⟩ <;> rfl

theorem handle_map (f : Value → Value) (m : Matcher σ) (c : Cursor) (s : σ) :
    (m.map f).handle c s onSuccess onFailure =
      m.handle c s (fun v d s => onSuccess (f v) d s) onFailure := by
  rw [handle_eq, map, resume_handle]
  rfl

theorem handle_and (p q : Matcher σ) (c : Cursor) (s : σ) :
    (p.and q).handle c s onSuccess onFailure =
      sequence p q c s (fun v w d s => onSuccess (.pair v w) d s) onFailure := by
  rw [handle_eq, and, sequence, resume_handle, sequence]
  congr 1
  funext v d s'
  rw [resume_handle]
  rfl

/-- What is done behind a repetition is done, after its next round, behind the values found
    so far if that round is the last one, and else behind the rest of the repetition. -/
theorem handle_gather_succ (committed : Bool) (fuel : Nat) (found : List Value) (c : Cursor)
    (s : σ) :
    (gather committed m (fuel + 1) found).handle c s onSuccess onFailure =
      m.handle c s
        (fun v d s =>
          if d.sameSpot c then onSuccess (.list found.reverse) c s
          else (gather committed m fuel (v :: found)).handle d s onSuccess onFailure)
        fun f s =>
          if committed && f.consumedFrom c then onFailure f s
          else onSuccess (.list found.reverse) c s := by
  rw [handle_eq, gather, resume_handle]
  congr 1
  · funext v d s'
    rw [apply_ite (resume onSuccess onFailure), ← handle_eq]
    rfl
  · funext f s'
    rw [apply_ite (resume onSuccess onFailure)]
    rfl

end Matcher

end Descent
