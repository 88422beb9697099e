/-
  Descent/Proofs/Bounded.lean
  ===========================
  **Bounded repetition** — how often it reads, and that nothing commits to it.

  A bounded repetition knows no progress: it counts successes, those that consume nothing
  among them, until the parser fails or the upper bound is reached (`Matcher.Streak`).  A
  parser with fixed replies has one such streak from each cursor (`Matcher.Streak.unique`),
  and the repetition succeeds with its values if it is long enough (`Matcher.times_streak`).

  If it is not, the failure is moved to the start of the repetition, however far the
  parser got.  So a committed combinator around it does what its free form does, and a name
  around it is what a failure expects (`Parser.NeverCommits`).

  Greedy repetition goes the same way as long as the parser consumes, and it ends where the
  parser fails.  There the bounded form has the first values of the greedy one.
-/
import Descent.Proofs.Greedy

namespace Descent

namespace Matcher

variable {σ : Type} {S : σ → Prop} {m : Matcher σ} {c d e : Cursor} {s s' : σ} {r r' : Reply}
  {vs ws : List Value} {most : Option Nat}

theorem Fixed.eq (hr : m.Fixed S c r) (hr' : m.Fixed S c r') (hs : S s) : r = r' := by
  obtain ⟨s₁, _, hrun⟩ := hr s hs
  obtain ⟨s₂, _, hrun'⟩ := hr' s hs
  rw [hrun] at hrun'
  exact (Prod.mk.inj (Option.some.inj hrun')).1

/-! ### Consecutive successes -/

/-- From `c` the matcher succeeds again and again, with these values, whether it consumes
    something or not; behind the last success it is at `e`. -/
inductive Successes (S : σ → Prop) (m : Matcher σ) : Cursor → List Value → Cursor → Prop
  | stop (c : Cursor) : Successes S m c [] c
  | step {c d e : Cursor} {v : Value} {vs : List Value} (hm : m.Fixed S c (.success v d))
      (hrest : Successes S m d vs e) : Successes S m c (v :: vs) e

/-- Wherever its successes lead from the cursor, the matcher has the same reply in all of
    the states, if it comes back. -/
def Repeatable (S : σ → Prop) (m : Matcher σ) (c : Cursor) : Prop :=
  ∀ vs d, Successes S m c vs d → ∀ s r s', S s → m d s = some (r, s') → m.Fixed S d r

/-- Wherever its successes lead from the cursor, a success of the matcher consumes
    something. -/
def Consuming (S : σ → Prop) (m : Matcher σ) (c : Cursor) : Prop :=
  ∀ vs d, Successes S m c vs d → ∀ v e, m.Fixed S d (.success v e) → ¬ e.sameSpot d = true

/-- All successes of the matcher from `c` on, one behind the other, but not more than the
    upper bound; these are their values, and behind the last one it is at `e`. -/
structure Streak (S : σ → Prop) (m : Matcher σ) (most : Option Nat) (c : Cursor)
    (vs : List Value) (e : Cursor) : Prop where
  successes : Successes S m c vs e
  /-- There are not more than the upper bound. -/
  bounded : ∀ max, most = some max → vs.length ≤ max
  /-- If the upper bound is not reached, then the matcher fails behind the last one. -/
  stopped : (∀ max, most = some max → vs.length < max) → ∃ f, m.Fixed S e (.failure f)

namespace Successes

/-- Of two rows of successes from one cursor, the shorter one is the start of the other. -/
theorem take_eq (h : Successes S m c vs d) (h' : Successes S m c ws e) (hs : S s)
    (hle : vs.length ≤ ws.length) : ws.take vs.length = vs := by
  induction h generalizing ws with
  | stop c => rfl
  | step hm _ ih =>
    cases h' with
    | stop _ => exact absurd hle (Nat.not_succ_le_zero _)
    | step hm' hrest' =>
      cases hm.eq hm' hs
      rw [List.length_cons, List.take_succ_cons, ih hrest' (Nat.le_of_succ_le_succ hle)]

/-- Where the matcher fails, no success follows. -/
theorem length_le_of_failure {f : Failure} (h : Successes S m c vs d)
    (hfail : m.Fixed S d (.failure f)) (h' : Successes S m c ws e) (hs : S s) :
    ws.length ≤ vs.length := by
  induction h generalizing ws with
  | stop c =>
    cases h' with
    | stop _ => exact le_rfl
    | step hm' _ => cases hfail.eq hm' hs
  | step hm _ ih =>
    cases h' with
    | stop _ => exact Nat.zero_le _
    | step hm' hrest' =>
      cases hm.eq hm' hs
      exact Nat.succ_le_succ (ih hfail hrest')

theorem end_eq (h : Successes S m c vs d) (h' : Successes S m c vs e) (hs : S s) : d = e := by
  induction h with
  | stop c =>
    cases h'
    rfl
  | step hm _ ih =>
    cases h' with
    | step hm' hrest' =>
      cases hm.eq hm' hs
      exact ih hrest'

end Successes

theorem Consuming.step {v : Value} (hm : m.Consuming S c) (hfirst : m.Fixed S c (.success v d)) :
    m.Consuming S d :=
  fun vs e he => hm (v :: vs) e (.step hfirst he)

theorem Repeatable.step {v : Value} (hm : m.Repeatable S c) (hfirst : m.Fixed S c (.success v d)) :
    m.Repeatable S d :=
  fun vs e he => hm (v :: vs) e (.step hfirst he)

namespace Streak

/-- A streak has the first values of any row of successes that ends with a failure. -/
theorem eq_take {f : Failure} (h : Streak S m most c vs d) (h' : Successes S m c ws e)
    (hfail : m.Fixed S e (.failure f)) (hs : S s) : vs = ws.take (most.getD ws.length) := by
  have hle : vs.length ≤ ws.length := h'.length_le_of_failure hfail h.successes hs
  have htake : ws.take vs.length = vs := h.successes.take_eq h' hs hle
  by_cases hless : ∀ max, most = some max → vs.length < max
  · obtain ⟨g, hg⟩ := h.stopped hless
    have hlength : vs.length = ws.length :=
      Nat.le_antisymm hle (h.successes.length_le_of_failure hg h' hs)
    have hall : ws.length ≤ most.getD ws.length := by
      cases most with
      | none => exact le_rfl
      | some max => exact hlength ▸ (hless max rfl).le
    rw [List.take_of_length_le hall, ← htake, hlength, List.take_length]
  · push Not at hless
    obtain ⟨max, rfl, hmax⟩ := hless
    have hlength : vs.length = max := Nat.le_antisymm (h.bounded max rfl) hmax
    rw [Option.getD_some, ← hlength, htake]

/-- **From each cursor there is one streak.** -/
theorem unique (h : Streak S m most c vs d) (h' : Streak S m most c ws e) (hs : S s) :
    vs = ws ∧ d = e := by
  have hle : ∀ {vs ws d e}, Streak S m most c vs d → Streak S m most c ws e →
      vs.length ≤ ws.length := by
    intro vs ws d e h h'
    by_cases hless : ∀ max, most = some max → ws.length < max
    · obtain ⟨f, hf⟩ := h'.stopped hless
      exact h'.successes.length_le_of_failure hf h.successes hs
    · push Not at hless
      obtain ⟨max, hmost, hmax⟩ := hless
      exact (h.bounded max hmost).trans hmax
  have hlength : vs.length = ws.length := Nat.le_antisymm (hle h h') (hle h' h)
  have hvalues := h.successes.take_eq h'.successes hs hlength.le
  rw [hlength, List.take_length] at hvalues
  subst hvalues
  exact ⟨rfl, h.successes.end_eq h'.successes hs⟩

end Streak

/-! ### Counted repetition -/

/-- **A counted repetition reads one streak**, unless a defect ends it. -/
theorem times_streak {bounded : Bool}
    {finish : List Value → Cursor → Option Failure → σ → Option (Reply × σ)} {fuel : Nat}
    {found : List Value} (hm : m.Repeatable S c) (hs : S s)
    (hrun : times bounded m finish fuel found c s = some (r, s')) (hr : ∀ e, r ≠ .defect e) :
    ∃ vs e s₁, Successes S m c vs e ∧
      ((∃ f, m.Fixed S e (.failure f) ∧ vs.length < fuel ∧
        finish (vs.reverse ++ found) e (some f) s₁ = some (r, s')) ∨
      bounded = true ∧ vs.length = fuel ∧
        finish (vs.reverse ++ found) e none s₁ = some (r, s')) := by
  induction fuel generalizing found c s with
  | zero =>
    rw [times] at hrun
    cases bounded with
    | false => cases hrun
    | true => exact ⟨[], c, s, .stop c, .inr ⟨rfl, rfl, hrun⟩⟩
  | succ fuel ih =>
    rw [times] at hrun
    rcases hfirst : m c s with _ | ⟨⟨v, d⟩ | f | e, s₁⟩
    · rw [handle_of_none hfirst] at hrun
      cases hrun
    · rw [handle_of_success hfirst] at hrun
      have hfixed := hm [] c (.stop c) s _ s₁ hs hfirst
      have hs₁ : S s₁ := by
        obtain ⟨s₂, hs₂, hrun₂⟩ := hfixed s hs
        rw [hfirst] at hrun₂
        cases hrun₂
        exact hs₂
      obtain ⟨vs, e, s₂, hsuccesses, hend⟩ := ih (hm.step hfixed) hs₁ hrun
      refine ⟨v :: vs, e, s₂, .step hfixed hsuccesses, ?_⟩
      rw [List.reverse_cons, List.append_assoc, List.singleton_append, List.length_cons]
      rcases hend with ⟨f, hf, hlt, hfinish⟩ | ⟨hbounded, hlength, hfinish⟩
      · exact .inl ⟨f, hf, Nat.succ_lt_succ hlt, hfinish⟩
      · exact .inr ⟨hbounded, congrArg Nat.succ hlength, hfinish⟩
    · rw [handle_of_failure hfirst] at hrun
      exact ⟨[], c, s₁, .stop c,
        .inl ⟨f, hm [] c (.stop c) s _ s₁ hs hfirst, Nat.succ_pos _, hrun⟩⟩
    · rw [handle_of_defect hfirst] at hrun
      cases hrun
      exact absurd rfl (hr e)

/-- The reply to a run is the fixed one, and the run does not lead out of the states. -/
theorem Repeatable.fixed (hm : m.Repeatable S c) (hs : S s) (hrun : m c s = some (r, s')) :
    m.Fixed S c r ∧ S s' := by
  have hfixed := hm [] c (.stop c) s r s' hs hrun
  obtain ⟨s₁, hs₁, hrun'⟩ := hfixed s hs
  rw [hrun] at hrun'
  cases hrun'
  exact ⟨hfixed, hs₁⟩

section Settle

variable [Traced σ] {least : Option Nat} {start : Cursor} {found : List Value}
  {stop : Option Failure}

theorem settle_of_le (hle : least.getD 0 ≤ found.length)
    (hrun : settle least most start found c stop s = some (r, s')) :
    r = .success (.list found.reverse) c := by
  simp only [settle, if_neg (Nat.not_lt.mpr hle), succeed, Option.some.injEq, Prod.mk.injEq] at hrun
  exact hrun.1.symm

/-- A repetition that falls short fails at its start. -/
theorem settle_of_lt (hlt : found.length < least.getD 0)
    (hrun : settle least most start found c stop s = some (r, s')) :
    ∃ f, r = .failure f ∧ f.remainder = start := by
  simp only [settle, if_pos hlt, fail, Option.some.injEq, Prod.mk.injEq] at hrun
  exact ⟨_, hrun.1.symm, rfl⟩

theorem repeated_streak (hm : m.Repeatable S c) (hs : S s)
    (hrun : m.repeated least most c s = some (r, s')) (hr : ∀ e, r ≠ .defect e) :
    ∃ vs e, Streak S m most c vs e ∧
      if least.getD 0 ≤ vs.length then r = .success (.list vs) e
      else ∃ f, r = .failure f ∧ f.remainder = c := by
  obtain ⟨vs, e, s₁, hsuccesses, hend⟩ := times_streak hm hs hrun hr
  have hsettled : ∀ stop, settle least most c (vs.reverse ++ []) e stop s₁ = some (r, s') →
      if least.getD 0 ≤ vs.length then r = .success (.list vs) e
      else ∃ f, r = .failure f ∧ f.remainder = c := by
    intro stop hsettle
    rw [List.append_nil] at hsettle
    split
    · next hle =>
      have hr' := settle_of_le (by rwa [List.length_reverse]) hsettle
      rwa [List.reverse_reverse] at hr'
    · next hlt => exact settle_of_lt (by rwa [List.length_reverse, ← Nat.not_le]) hsettle
  rcases hend with ⟨f, hf, hlt, hfinish⟩ | ⟨hbounded, hlength, hfinish⟩
  · refine ⟨vs, e, ⟨hsuccesses, ?_, fun _ => ⟨f, hf⟩⟩, hsettled _ hfinish⟩
    rintro max rfl
    exact hlt.le
  · obtain ⟨max, rfl⟩ := Option.isSome_iff_exists.mp hbounded
    refine ⟨vs, e, ⟨hsuccesses, ?_, ?_⟩, hsettled _ hfinish⟩
    · rintro max' heq
      cases heq
      exact hlength.le
    · intro hless
      exact absurd hlength (hless max rfl).ne

end Settle

/-! ### Failures at the start -/

def FailsAtStart (m : Matcher σ) : Prop :=
  ∀ c s f s', m c s = some (.failure f, s') → f.remainder = c

theorem times_failure {bounded : Bool} {start : Cursor} {f : Failure}
    {finish : List Value → Cursor → Option Failure → σ → Option (Reply × σ)}
    (hfinish : ∀ found c stop s f s', finish found c stop s = some (.failure f, s') →
      f.remainder = start) {fuel : Nat} {found : List Value}
    (hrun : times bounded m finish fuel found c s = some (.failure f, s')) :
    f.remainder = start := by
  induction fuel generalizing found c s with
  | zero =>
    rw [times] at hrun
    cases bounded with
    | false => cases hrun
    | true => exact hfinish _ _ _ _ _ _ hrun
  | succ fuel ih =>
    rw [times] at hrun
    rcases hfirst : m c s with _ | ⟨⟨v, d⟩ | g | e, s₁⟩
    · rw [handle_of_none hfirst] at hrun
      cases hrun
    · rw [handle_of_success hfirst] at hrun
      exact ih hrun
    · rw [handle_of_failure hfirst] at hrun
      exact hfinish _ _ _ _ _ _ hrun
    · rw [handle_of_defect hfirst] at hrun
      cases hrun

theorem failsAtStart_repeated [Traced σ] (m : Matcher σ) (least most : Option Nat) :
    (m.repeated least most).FailsAtStart := by
  intro c s f s' hrun
  refine times_failure (fun found d stop s f s' hsettle => ?_) hrun
  by_cases hle : least.getD 0 ≤ found.length
  · cases settle_of_le hle hsettle
  · obtain ⟨g, heq, hstart⟩ := settle_of_lt (Nat.not_le.mp hle) hsettle
    cases heq
    exact hstart

namespace FailsAtStart

variable (hm : m.FailsAtStart)

include hm

theorem not_consumed {f : Failure} (hrun : m c s = some (.failure f, s')) :
    f.consumedFrom c = false := by
  rw [Failure.consumedFrom, hm c s f s' hrun, Cursor.sameSpot]
  simp

/-- What is done behind a failure matters for those alone that consumed nothing. -/
theorem handle_congr {onSuccess : Value → Cursor → σ → Option (Reply × σ)}
    {onFailure onFailure' : Failure → σ → Option (Reply × σ)}
    (h : ∀ f s, f.consumedFrom c = false → onFailure f s = onFailure' f s) :
    m.handle c s onSuccess onFailure = m.handle c s onSuccess onFailure' := by
  rcases hrun : m c s with _ | ⟨⟨v, d⟩ | f | e, s'⟩
  · rw [handle_of_none hrun, handle_of_none hrun]
  · rw [handle_of_success hrun, handle_of_success hrun]
  · rw [handle_of_failure hrun, handle_of_failure hrun, h f s' (hm.not_consumed hrun)]
  · rw [handle_of_defect hrun, handle_of_defect hrun]

theorem choice_eq (q : Matcher σ) : choice true m q = choice false m q := by
  funext c s
  refine hm.handle_congr fun f s hf => ?_
  simp [hf]

theorem optional_eq : optional true m = optional false m := by
  funext c s
  refine hm.handle_congr fun f s hf => ?_
  simp [hf]

theorem many_eq : many true m = many false m := by
  have hgather : ∀ fuel found, gather true m fuel found = gather false m fuel found := by
    intro fuel
    induction fuel with
    | zero => exact fun _ => rfl
    | succ fuel ih =>
      intro found
      funext c s
      rw [gather, gather]
      simp only [ih]
      refine hm.handle_congr fun f s hf => ?_
      simp [hf]
  funext c s
  rw [many, many, hgather]

theorem named_failure {label : String} {f : Failure}
    (hrun : m.named label c s = some (.failure f, s')) :
    f.remainder = c ∧ f.expectations = [label] := by
  rcases hfirst : m c s with _ | ⟨⟨v, d⟩ | g | e, s₁⟩
  · rw [named, handle_of_none hfirst] at hrun
    cases hrun
  · rw [named, handle_of_success hfirst] at hrun
    cases hrun
  · rw [named, handle_of_failure hfirst, hm.not_consumed hfirst] at hrun
    cases hrun
    exact ⟨hm c s g s' hfirst, rfl⟩
  · rw [named, handle_of_defect hfirst] at hrun
    cases hrun

end FailsAtStart

/-! ### Counted and greedy repetition -/

/-- What greedy repetition collects from a matcher whose successes consume are all its
    successes up to the first failure. -/
theorem gather_successes {fuel : Nat} {found : List Value} {w : Value} (hm : m.Repeatable S c)
    (hmoves : m.Consuming S c) (hs : S s)
    (hrun : gather false m fuel found c s = some (.success w e, s')) :
    ∃ ws f, w = .list (found.reverse ++ ws) ∧ Successes S m c ws e ∧ m.Fixed S e (.failure f) := by
  induction fuel generalizing found c s with
  | zero => cases hrun
  | succ fuel ih =>
    rw [gather] at hrun
    rcases hfirst : m c s with _ | ⟨⟨v, d⟩ | f | e, s₁⟩
    · rw [handle_of_none hfirst] at hrun
      cases hrun
    · obtain ⟨hfixed, hs₁⟩ := hm.fixed hs hfirst
      rw [handle_of_success hfirst, if_neg (hmoves [] c (.stop c) v d hfixed)] at hrun
      obtain ⟨ws, f, rfl, hsuccesses, hfail⟩ :=
        ih (hm.step hfixed) (hmoves.step hfixed) hs₁ hrun
      refine ⟨v :: ws, f, ?_, .step hfixed hsuccesses, hfail⟩
      rw [List.reverse_cons, List.append_assoc, List.singleton_append]
    · rw [handle_of_failure hfirst] at hrun
      cases hrun
      exact ⟨[], f, by rw [List.append_nil], .stop _, (hm.fixed hs hfirst).1⟩
    · rw [handle_of_defect hfirst] at hrun
      cases hrun

end Matcher

/-! ### Bounded repetition of parsers -/

namespace World

variable {text : List Char} {start c d : Cursor} {w : World} {p : Parser} {n : Nat}
  {vs : List Value}

theorem reaches_of_successes (hw : Rested text w w) (hc : c.Over text)
    (h : (p.matcher (call n)).Successes (Rested text w) c vs d) : c.Reaches d := by
  induction h with
  | stop c => exact .refl c
  | step hfirst _ ih =>
    obtain ⟨w', _, hrun⟩ := hfirst w hw
    have hreach := (matcher_keeps .trivial hc ⟨hw.recorded.sure, True.intro⟩ hrun).2
    exact Cursor.Reaches.trans hreach (ih (hc.reaches hreach))

/-- **Every parser is repeatable**, whether it is steady or not, where no rule is deferred. -/
theorem repeatable (hdeferred : ∀ rule, (w.book.slot rule).factory = none)
    (hstart : start.Over text) (hw : Rested text w w) :
    (p.matcher (call (w.depthLimit start))).Repeatable (Rested text w) start := by
  intro vs d hd u r u' hu hrun
  have hreach := reaches_of_successes hw hstart hd
  have hreply := hu.reply_eq (p := p) hstart hreach hw.ready
  rw [hrun, Option.map_some] at hreply
  obtain ⟨⟨r', w'⟩, hrun', rfl⟩ := Option.map_eq_some_iff.mp hreply
  exact fixed_of_reply hdeferred hstart hreach hw.ready hrun'

end World

section Bounded

variable {σ : Type} [Traced σ] {S : σ → Prop} {call : Handle → Matcher σ} {c : Cursor} {p : Parser}
  {least most : Option Nat} {s s' : σ} {r : Reply}

/-- Committed combinators around the parser do what their free forms do, and a name around
    it is what every failure expects, at the start. -/
structure Parser.NeverCommits (call : Handle → Matcher σ) (p : Parser) : Prop where
  xor_eq : ∀ q, (p.xor q).matcher call = (p.or q).matcher call
  optional_eq : (Parser.optional true p).matcher call = (Parser.optional false p).matcher call
  many_eq : (Parser.many true p).matcher call = (Parser.many false p).matcher call
  named : ∀ label c s f s', (Parser.named p label).matcher call c s = some (.failure f, s') →
    f.remainder = c ∧ f.expectations = [label]

theorem Parser.neverCommits_repeated : (Parser.repeated p least most).NeverCommits call where
  xor_eq _ := (Matcher.failsAtStart_repeated _ _ _).choice_eq _
  optional_eq := (Matcher.failsAtStart_repeated _ _ _).optional_eq
  many_eq := (Matcher.failsAtStart_repeated _ _ _).many_eq
  named _ _ _ _ _ hrun := (Matcher.failsAtStart_repeated _ _ _).named_failure hrun

/-- **Bounded repetition is exact and never commits.**  Wherever the successes of a parser
    lead from the cursor, it has a fixed reply, and its repetition comes back without a
    defect.  Then there is one streak of successes up to the upper bound, and the repetition
    succeeds with its values where it ends, if these are as many as the lower bound asks for.
    If not, which is so whenever the bounds contradict each other, it fails at its start, and
    nothing that is built around the repetition commits to it.  If successes of the parser
    consume something and the bounds do not contradict each other, the values are the first
    ones that greedy repetition collects, and the repetition fails if those are too few. -/
theorem Parser.repetition_bounded (hp : (p.matcher call).Repeatable S c) (hs : S s)
    (hrun : (Parser.repeated p least most).matcher call c s = some (r, s'))
    (hr : ∀ defect, r ≠ .defect defect) :
    (∃ vs e, (p.matcher call).Streak S most c vs e) ∧
    (∀ vs e, (p.matcher call).Streak S most c vs e →
      if least.getD 0 ≤ vs.length then r = .success (.list vs) e
      else ∃ f, r = .failure f ∧ f.remainder = c) ∧
    (∀ max, most = some max → max < least.getD 0 → ∃ f, r = .failure f ∧ f.remainder = c) ∧
    (Parser.repeated p least most).NeverCommits call ∧
    ((p.matcher call).Consuming S c → (∀ max, most = some max → least.getD 0 ≤ max) →
      ∀ ws d t t', S t → (Parser.many false p).matcher call c t = some (.success (.list ws) d, t') →
        if least.getD 0 ≤ ws.length then ∃ e, r = .success (.list (ws.take (most.getD ws.length))) e
        else ∃ f, r = .failure f) := by
  obtain ⟨vs, e, hstreak, hreply⟩ := Matcher.repeated_streak hp hs hrun hr
  refine ⟨⟨vs, e, hstreak⟩, ?_, ?_, neverCommits_repeated, ?_⟩
  · intro ws d hstreak'
    obtain ⟨rfl, rfl⟩ := hstreak.unique hstreak' hs
    exact hreply
  · intro max hmost hlt
    have hshort : ¬ least.getD 0 ≤ vs.length :=
      Nat.not_le.mpr ((hstreak.bounded max hmost).trans_lt hlt)
    rwa [if_neg hshort] at hreply
  · intro hmoves hbounds ws d t t' ht hmany
    obtain ⟨ws', f, heq, hsuccesses, hfail⟩ := Matcher.gather_successes hp hmoves ht hmany
    obtain rfl : ws = ws' := by simpa using heq
    have htake : vs = ws.take (most.getD ws.length) := hstreak.eq_take hsuccesses hfail hs
    -- The upper bound is no less than the lower one, so it cuts off none that are needed.
    have henough : least.getD 0 ≤ vs.length ↔ least.getD 0 ≤ ws.length := by
      rw [htake, List.length_take]
      cases most with
      | none => simp
      | some max =>
        have hbound := hbounds max rfl
        simp only [Option.getD_some]
        omega
    by_cases hle : least.getD 0 ≤ ws.length
    · rw [if_pos hle]
      rw [if_pos (henough.mpr hle), htake] at hreply
      exact ⟨e, hreply⟩
    · rw [if_neg hle]
      rw [if_neg (henough.not.mpr hle)] at hreply
      obtain ⟨g, hg, _⟩ := hreply
      exact ⟨g, hg⟩

/-- A rule takes `a` and `b`.  Over `ababac` it succeeds twice and then fails behind another
    `a`.  Three or four times is too much for it, and the failure is at the start; read just
    once, it has the first of the two values that greedy repetition collects. -/
theorem Parser.repetition_bounded_short :
    let pair : Parser := .rule ⟨⟨0, "pair"⟩, true⟩
    let ab : Value := .pair (.str "a") (.str "b")
    let start : Cursor := .start ['a', 'b', 'a', 'b', 'a', 'c']
    let w : World := ⟨[.defined (.and (.string "a") (.string "b"))], .empty, .empty, [], []⟩
    let n := w.depthLimit start
    (∃ f w', (Parser.repeated pair (some 3) (some 4)).matcher (World.call n) start w =
      some (.failure f, w') ∧ f.remainder = start) ∧
    (Parser.repeated pair (some 3) (some 4)).NeverCommits (World.call n) ∧
    (∃ w', (Parser.many false pair).matcher (World.call n) start w =
      some (.success (.list [ab, ab]) (start.skip 4), w')) ∧
    ∃ e w', (Parser.repeated pair (some 1) (some 1)).matcher (World.call n) start w =
      some (.success (.list [ab]) e, w') := by
  intro pair ab start w n
  have hdeferred : ∀ rule, (w.book.slot rule).factory = none := by
    rintro ⟨_ | index, name⟩ <;> rfl
  have hready : w.ReadyFor start.source := .of_no_entries rfl
  have hguard : w.guard.Recorded start.source := .fresh rfl
  have hrested : World.Rested start.source w w := ⟨⟨rfl, rfl⟩, hready, hguard⟩
  have hreply : ∀ k r w', pair.matcher (World.call n) (start.skip k) w = some (r, w') →
      Matcher.Fixed (World.Rested start.source w) (pair.matcher (World.call n)) (start.skip k) r :=
    fun k r w' hrun => World.fixed_of_reply hdeferred (.start _) (.skip k start) hready hrun
  have hfirst := hreply 0 (.success ab (start.skip 2)) _ rfl
  have hsecond := hreply 2 (.success ab (start.skip 4)) _ rfl
  have hthird := hreply 4 (.failure (.unexpected (start.skip 5) "b")) _ rfl
  -- From the start the successes lead to these three places and to no other.
  have hplaces : ∀ vs d, Matcher.Successes (World.Rested start.source w)
      (pair.matcher (World.call n)) start vs d →
        d = start ∨ d = start.skip 2 ∨ d = start.skip 4 := by
    rintro vs d (_ | ⟨hm, hrest⟩)
    · exact .inl rfl
    cases hm.eq hfirst hrested
    cases hrest with
    | stop => exact .inr (.inl rfl)
    | step hm hrest =>
      cases hm.eq hsecond hrested
      cases hrest with
      | stop => exact .inr (.inr rfl)
      | step hm hrest => cases hm.eq hthird hrested
  have hrepeatable : (pair.matcher (World.call n)).Repeatable (World.Rested start.source w) start :=
    World.repeatable hdeferred (.start _) hrested
  have hconsuming :
      (pair.matcher (World.call n)).Consuming (World.Rested start.source w) start := by
    intro vs d hd v e hm
    rcases hplaces vs d hd with rfl | rfl | rfl
    · cases hm.eq hfirst hrested
      decide
    · cases hm.eq hsecond hrested
      decide
    · cases hm.eq hthird hrested
  -- Without the local definitions the runs are closed terms, which evaluate fast.
  obtain ⟨w₁, hmany⟩ : ∃ w', (Parser.many false pair).matcher (World.call n) start w =
      some (.success (.list [ab, ab]) (start.skip 4), w') := by
    dsimp only [pair, ab, start, w, n]
    exact ⟨_, rfl⟩
  obtain ⟨f, w₂, hshort, hstart⟩ :
      ∃ f w', (Parser.repeated pair (some 3) (some 4)).matcher (World.call n) start w =
        some (.failure f, w') ∧ f.remainder = start := by
    dsimp only [pair, start, w, n]
    exact ⟨_, _, rfl, rfl⟩
  obtain ⟨r, w₃, honce, hsound⟩ :
      ∃ r w', (Parser.repeated pair (some 1) (some 1)).matcher (World.call n) start w =
        some (r, w') ∧ ∀ defect, r ≠ .defect defect := ⟨_, _, rfl, fun _ => Reply.noConfusion⟩
  obtain ⟨_, _, _, hcommits, _⟩ :=
    repetition_bounded hrepeatable hrested hshort fun _ => Reply.noConfusion
  obtain ⟨_, _, _, _, hgreedy⟩ := repetition_bounded hrepeatable hrested honce hsound
  obtain ⟨e, rfl⟩ : ∃ e, r = .success (.list [ab]) e :=
    hgreedy hconsuming (fun max heq => (Option.some.inj heq).le) _ _ _ _ hrested hmany
  exact ⟨⟨f, w₂, hshort, hstart⟩, hcommits, ⟨w₁, hmany⟩, e, w₃, honce⟩

end Bounded

end Descent
