/-
  Descent/Proofs/Visits.lean
  ==========================
  **The visits of a run** — every use of a rule, in order, with what became of it.

  A use of a rule that has a body is answered at once, by left recursion or by a known
  outcome, or the body is started and comes to a reply later.  `Logged.call` is
  `World.call` with each of these written down.

  A run that does not come back leaves no log.  Its visits are read off the dialogue of
  its parser (`World.runVisits`); where the run does come back, they are those of the
  log (`World.logged_run`).
-/
import Descent.Proofs.Expansion

namespace Descent

/-- Something that becomes of a rule at a cursor. -/
inductive Visit where
  | undefined (h : Handle) (c : Cursor)
  /-- The rule is being expanded there already: left recursion. -/
  | reentered (h : Handle) (c : Cursor)
  /-- The outcome of the rule there is known, and is the reply. -/
  | served (h : Handle) (c : Cursor) (r : Reply)
  | entered (h : Handle) (c : Cursor)
  | left (h : Handle) (c : Cursor) (r : Reply)

namespace Visit

def key : Visit → Nat × Nat
  | undefined h c | reentered h c | served h c _ | entered h c | left h c _ =>
    (h.rule.index, c.offset)

def entered? : Visit → Option (Nat × Nat)
  | entered h c => some (h.rule.index, c.offset)
  | _ => none

end Visit

/-! ### Logs -/

/-- A world, with the visits so far. -/
structure Logged where
  world : World
  visits : List Visit

namespace Logged

instance : Traced Logged where
  note record s := ⟨s.world.note record, s.visits⟩
  tally label s := ⟨s.world.tally label, s.visits⟩

instance : Watched Logged := .deaf Logged

def call : (fuel : Nat) → Handle → Matcher Logged
  | 0, _, _, _ => none
  | fuel + 1, h, c, s =>
    match s.world.resolve h with
    | (none, w) => some (.defect (.undefinedRule h.rule c), ⟨w, .undefined h c :: s.visits⟩)
    | (some body, w) =>
      match w.guard.lookup? h.rule c.offset with
      | some .expanding =>
        some (.defect (.leftRecursion h.rule c),
          ⟨w.note (.reentered h.rule c.position), .reentered h c :: s.visits⟩)
      | some (.done memo) =>
        some (memo.restore c,
          ⟨w.note (.served h.rule c.position), .served h c (memo.restore c) :: s.visits⟩)
      | none =>
        let guard := w.guard.enter h.rule c.offset
        match body.matcher (call fuel) c ⟨{ w with guard }, .entered h c :: s.visits⟩ with
        | none => none
        | some (r, s) => some (r, ⟨s.world.closed h c r, .left h c r :: s.visits⟩)

def ofRun (visits past : List Visit) (outcome : Option (Reply × World)) :
    Option (Reply × Logged) :=
  outcome.map fun (r, w) => (r, ⟨w, visits.reverse ++ past⟩)

end Logged

/-! ### Visits along dialogues -/

/-- The visits along a dialogue, given what the rules do and the visits that they make. -/
def Dialogue.visits (call : Handle → Matcher World) (told : Handle → Cursor → World → List Visit) :
    Dialogue → World → List Visit
  | .finish _, _ | .endless, _ => []
  | .started _ _ next, w => next.visits call told w
  | .fellShort stop next, w => next.visits call told (w.note (.fellShort stop))
  | .tally label next, w => next.visits call told (w.tally label)
  | .ask h c next, w =>
    match call h c w with
    | some (.success v d, w') => told h c w ++ (next (.success v d)).visits call told w'
    | some (.failure f, w') => told h c w ++ (next (.failure f)).visits call told w'
    | _ => told h c w

namespace Dialogue

variable {call : Handle → Matcher World} {told : Handle → Cursor → World → List Visit}
  {k : Handle} {d : Cursor} {next : Reply → Dialogue} {w w' : World} {r : Reply}

theorem visits_ask_of_none (h : call k d w = none) :
    (ask k d next).visits call told w = told k d w := by
  simp only [visits, h]

theorem visits_ask_of_defect {e : Defect} (h : call k d w = some (.defect e, w')) :
    (ask k d next).visits call told w = told k d w := by
  simp only [visits, h]

theorem visits_ask_of_reply (h : call k d w = some (r, w')) (hr : r.defect? = none) :
    (ask k d next).visits call told w = told k d w ++ (next r).visits call told w' := by
  cases r with
  | success v e => simp only [visits, h]
  | failure f => simp only [visits, h]
  | defect e => cases hr

end Dialogue

namespace World

/-- The visits of a use of a rule. -/
noncomputable def callVisits : (fuel : Nat) → Handle → Cursor → World → List Visit
  | 0, _, _, _ => []
  | fuel + 1, h, c, w =>
    match (w.resolve h).1 with
    | none => [.undefined h c]
    | some body =>
      match w.guard.lookup? h.rule c.offset with
      | some .expanding => [.reentered h c]
      | some (.done memo) => [.served h c (memo.restore c)]
      | none =>
        let within := (body.dialogue c).visits (call fuel) (callVisits fuel) (w.opened h c)
        match body.matcher (call fuel) c (w.opened h c) with
        | none => .entered h c :: within
        | some (r, _) => .entered h c :: within ++ [.left h c r]

noncomputable def runVisits (p : Parser) (c : Cursor) (w : World) : List Visit :=
  (p.dialogue c).visits (call (w.depthLimit c)) (callVisits (w.depthLimit c)) w

/-! ### The visits are those of the log -/

theorem logged_hold {n : Nat}
    (hcall : ∀ k d w past, Logged.call n k d ⟨w, past⟩ =
      Logged.ofRun (callVisits n k d w) past (call n k d w))
    (t : Dialogue) (w : World) (past : List Visit) : t.hold (Logged.call n) ⟨w, past⟩ =
      Logged.ofRun (t.visits (call n) (callVisits n) w) past (t.hold (call n) w) := by
  induction t generalizing w past with
  | finish r => rfl
  | endless => rfl
  | started p d next ih => exact ih w past
  | fellShort stop next ih => exact ih (w.note (.fellShort stop)) past
  | tally label next ih => exact ih (w.tally label) past
  | ask k d next ih =>
    have hlog := hcall k d w past
    rcases hask : call n k d w with _ | ⟨r, w₁⟩
    · rw [hask] at hlog
      rw [Dialogue.hold_ask_of_none hlog, Dialogue.hold_ask_of_none hask]
      rfl
    · rw [hask] at hlog
      rcases hr : r.defect? with _ | e
      · rw [Dialogue.hold_ask_of_reply hlog hr, Dialogue.hold_ask_of_reply hask hr,
          Dialogue.visits_ask_of_reply hask hr, ih r]
        simp only [Logged.ofRun, List.reverse_append, List.append_assoc]
      · obtain rfl := Reply.eq_defect hr
        rw [Dialogue.hold_ask_of_defect hlog, Dialogue.hold_ask_of_defect hask,
          Dialogue.visits_ask_of_defect hask]
        rfl

theorem logged_call (n : Nat) (h : Handle) (c : Cursor) (w : World) (past : List Visit) :
    Logged.call n h c ⟨w, past⟩ = Logged.ofRun (callVisits n h c w) past (call n h c w) := by
  induction n generalizing h c w past with
  | zero => rfl
  | succ n ih =>
    rcases hresolve : w.resolve h with ⟨_ | body, w₁⟩
    · have hnone : (w.resolve h).1 = none := by rw [hresolve]
      have hsame := resolve_of_none hnone
      rw [hresolve] at hsame
      cases hsame
      rw [call_of_unresolved hnone]
      simp only [Logged.call, callVisits, hresolve]
      rfl
    · have hbody : (w.resolve h).1 = some body := by rw [hresolve]
      have hguard : w₁.guard = w.guard := by
        rw [← w.guard_resolve h, hresolve]
      rw [call_of_resolved hbody]
      simp only [Logged.call, callVisits, hresolve, hguard]
      rcases hlookup : w.guard.lookup? h.rule c.offset with _ | _ | memo
      · have hopened : w.opened h c = { w₁ with guard := w.guard.enter h.rule c.offset } := by
          rw [opened, hresolve]
        have hinner := logged_hold ih (body.dialogue c) (w.opened h c)
          (.entered h c :: past)
        rw [← Parser.matcher_eq_hold, ← Parser.matcher_eq_hold, hopened] at hinner
        simp only [hinner, hopened]
        rcases body.matcher (call n) c _ with _ | ⟨r, w₂⟩
        · rfl
        · simp [Logged.ofRun]
      · rfl
      · rfl

/-- **The visits are those of the log**, for every run that comes back. -/
theorem logged_run (p : Parser) (c : Cursor) (w : World) :
    p.matcher (Logged.call (w.depthLimit c)) c ⟨w, []⟩ =
      Logged.ofRun (runVisits p c w) [] (run p c w) := by
  have hlog := logged_hold (logged_call (w.depthLimit c)) (p.dialogue c) w []
  rw [← Parser.matcher_eq_hold, ← Parser.matcher_eq_hold] at hlog
  exact hlog

end World

end Descent
