/-
  Descent/Proofs/Greedy.lean
  ==========================
  **Greedy repetition** — where it stops, and what its committed form adds.

  A parser with a fixed reply at each cursor goes one way only: a success that consumes
  leads to the next cursor, and since none lies before the last one, the way ends at a
  cursor where the parser does not consume (`Matcher.Strides`).  Free and committed
  repetition go that same way (`Matcher.gather_fixed`).  They differ in what they make of
  the last reply alone.

  The specification has the committed form tried on by other combinators: behind the free
  form, the step that is repeated is read once more in a committed alternation with the
  values so far (`Parser.insisting`).  There a success of that step consumes nothing, so
  the values supersede it, and a failure that consumed nothing is forgotten.  What is left
  is a failure behind consumed text, and that is what the committed form reports.
-/
import Descent.Proofs.Alternation

namespace Descent

namespace Matcher

variable {σ : Type} {S : σ → Prop} {m : Matcher σ} {c d e : Cursor} {v : Value} {vs : List Value}

/-- From `c` the matcher succeeds again and again, with these values, consuming something
    each time; behind the last success it is at `e`. -/
inductive Strides (S : σ → Prop) (m : Matcher σ) : Cursor → List Value → Cursor → Prop
  | stop (c : Cursor) : Strides S m c [] c
  | step {c d e : Cursor} {v : Value} {vs : List Value} (hm : m.Fixed S c (.success v d))
      (hmoves : ¬ d.sameSpot c = true) (hrest : Strides S m d vs e) : Strides S m c (v :: vs) e

theorem gather_fixed (fuel : Nat) (hm : m.Constant S c) (hfuel : c.rest.length < fuel) :
    ∃ vs e x, Strides S m c vs e ∧ m.Fixed S e x ∧ x.moves e = false ∧
      ∀ committed found, (gather committed m fuel found).Fixed S c
        (if x.decides committed e then x else .success (.list (found.reverse ++ vs)) e) := by
  induction fuel generalizing c with
  | zero => exact absurd hfuel (Nat.not_lt_zero _)
  | succ fuel ih =>
    obtain ⟨x, hx, hreach⟩ := hm c (.refl c)
    rcases hmoves : x.moves c with _ | _
    · refine ⟨[], c, x, .stop c, hx, hmoves, fun committed found => ?_⟩
      rw [List.append_nil]
      cases x with
      | success v d =>
        have hspot : d.sameSpot c = true := by simpa [Reply.moves] using hmoves
        simp only [Reply.decides, hspot, Bool.not_true, Bool.false_eq_true, if_false]
        refine hx.handle_success fun s hs => ⟨s, hs, ?_⟩
        rw [if_pos hspot]
        rfl
      | failure f =>
        refine hx.handle_failure fun s hs => ⟨s, hs, ?_⟩
        rw [Reply.decides]
        split <;> rfl
      | defect e => exact hx.handle_defect
    · cases x with
      | failure f | defect e => cases hmoves
      | success v d =>
        have hspot : ¬ d.sameSpot c = true := by simpa [Reply.moves] using hmoves
        have hahead : c.Reaches d := hreach
        have hless : d.rest.length < fuel := by
          rcases hahead.eq_or_rest_lt with rfl | hlt
          · exact absurd (by simp [Cursor.sameSpot]) hspot
          · omega
        obtain ⟨vs, e, x, hstrides, hx', hstop, hgather⟩ := ih (hm.from hahead) hless
        refine ⟨v :: vs, e, x, .step hx hspot hstrides, hx', hstop, fun committed found => ?_⟩
        have hrest := hgather committed (v :: found)
        rw [List.reverse_cons, List.append_assoc, List.singleton_append] at hrest
        refine hx.handle_success fun s hs => ?_
        rw [if_neg hspot]
        exact hrest s hs

theorem many_fixed (hm : m.Constant S c) :
    ∃ vs e x, Strides S m c vs e ∧ m.Fixed S e x ∧ x.moves e = false ∧
      ∀ committed, (m.many committed).Fixed S c
        (if x.decides committed e then x else .success (.list vs) e) := by
  obtain ⟨vs, e, x, hstrides, hx, hstop, hgather⟩ := gather_fixed _ hm (Nat.lt_succ_self _)
  exact ⟨vs, e, x, hstrides, hx, hstop, fun committed => hgather committed []⟩

end Matcher

/-! ### The committed form -/

/-- A parser behind which another one is tried, which must not fail behind consumed text;
    its value is forgotten. -/
def Parser.insisting (free tail : Parser) : Parser :=
  .bind free tail.handles fun v => tail.once.xor (.succeed v)

section Committed

variable {σ : Type} [Traced σ] {S : σ → Prop} {call : Handle → Matcher σ} {c e : Cursor}
  {p free committed tail : Parser} {v : Value} {x y : Reply}

/-- At the cursor, the committed form of a repetition is the free form and behind it one
    more try of the step that is repeated. -/
structure Insists (S : σ → Prop) (call : Handle → Matcher σ) (tail free committed : Parser)
    (c : Cursor) : Prop where
  /-- It is what other combinators make of the free form and the step. -/
  composed : ∃ r, (committed.matcher call).Fixed S c r ∧
    ((free.insisting tail).matcher call).Fixed S c r
  /-- It is the free form, unless the step fails behind text that it consumed where the
      free form stops; then it is that failure. -/
  resolved : (∃ y, y.isSuccess = false ∧ (free.matcher call).Fixed S c y ∧
      (committed.matcher call).Fixed S c y) ∨
    ∃ v e x, (free.matcher call).Fixed S c (.success v e) ∧ (tail.matcher call).Fixed S e x ∧
      x.decides false e = false ∧
      (∀ f, x = .failure f → f.consumedFrom e = true →
        (committed.matcher call).Fixed S c (.failure f)) ∧
      ((∀ f, x = .failure f → f.consumedFrom e = false) →
        (committed.matcher call).Fixed S c (.success v e))

/-- One more try of a step that does not consume, in a committed alternation with a value. -/
theorem Parser.retry_fixed (hx : (tail.matcher call).Fixed S e x) (hstop : x.moves e = false) :
    ((tail.once.xor (.succeed v)).matcher call).Fixed S e
      (if x.decides true e then x else .success v e) := by
  have honce : (tail.once.matcher call).Fixed S e (x.mapValue .wrap) := hx.map _
  intro s hs
  obtain ⟨s', hs', hrun⟩ := honce s hs
  have hvalue : (Parser.succeed v).matcher call e s' = some (.success v e, s') := rfl
  refine ⟨s', hs', ?_⟩
  cases x with
  | success w d =>
    have hdecides : (Reply.success w d).decides true e = false := hstop
    rw [hdecides]
    exact Matcher.choice_of_not_decides hrun hstop hvalue
  | failure f =>
    rcases hdecides : (Reply.failure f).decides true e with _ | _
    · exact Matcher.choice_of_not_decides hrun hdecides hvalue
    · exact Matcher.choice_of_decides hrun hdecides
  | defect d => exact Matcher.choice_of_decides hrun rfl

namespace Insists

theorem of_not_success (hy : y.isSuccess = false) (hfree : (free.matcher call).Fixed S c y)
    (hcommitted : (committed.matcher call).Fixed S c y) : Insists S call tail free committed c :=
  ⟨⟨y, hcommitted, hfree.bind_of_not_success hy⟩, .inl ⟨y, hy, hfree, hcommitted⟩⟩

/-- Free and committed form go the same way, and make of the last reply what repetitions
    make of it. -/
theorem of_stop (hx : (tail.matcher call).Fixed S e x) (hstop : x.moves e = false)
    (hfree : (free.matcher call).Fixed S c (if x.decides false e then x else .success v e))
    (hcommitted : (committed.matcher call).Fixed S c
      (if x.decides true e then x else .success v e)) :
    Insists S call tail free committed c := by
  rcases hdecides : x.decides false e with _ | _
  · rw [hdecides] at hfree
    refine ⟨⟨_, hcommitted, hfree.bind_success (Parser.retry_fixed hx hstop)⟩,
      .inr ⟨v, e, x, hfree, hx, hdecides, ?_, ?_⟩⟩
    · rintro f rfl hconsumed
      have hcut : (Reply.failure f).decides true e = true := hconsumed
      rw [hcut] at hcommitted
      exact hcommitted
    · intro hkept
      have hend : x.decides true e = false := by
        cases x with
        | success w d => exact hstop
        | failure f => exact hkept f rfl
        | defect d => cases hdecides
      rw [hend] at hcommitted
      exact hcommitted
  · cases x with
    | success w d => exact absurd (hdecides.symm.trans hstop) Bool.noConfusion
    | failure f => cases hdecides
    | defect d => exact of_not_success rfl hfree hcommitted

theorem many (hp : (p.matcher call).Constant S c) :
    Insists S call p (.many false p) (.many true p) c := by
  obtain ⟨vs, e, x, _, hx, hstop, hmany⟩ := Matcher.many_fixed hp
  exact of_stop hx hstop (hmany false) (hmany true)

/-- Both forms behind another parser, with a function of both values. -/
theorem behind (f : Value → Value) (hp : (p.matcher call).Constant S c)
    (htail : (tail.matcher call).Constant S c) :
    Insists S call tail (.map f (.and p (.many false tail))) (.map f (.and p (.many true tail)))
      c := by
  obtain ⟨y, hy, hreach⟩ := hp c (.refl c)
  cases y with
  | success v d =>
    obtain ⟨vs, e, x, _, hx, hstop, hmany⟩ := Matcher.many_fixed (htail.from hreach)
    have hform : ∀ committed,
        ((Parser.map f (.and p (.many committed tail))).matcher call).Fixed S c
          (if x.decides committed e then x else .success (f (.pair v (.list vs))) e) := by
      intro committed
      have hfixed := (hy.and_success (hmany committed)).map f
      rcases hdecides : x.decides committed e with _ | _
      · rw [hdecides] at hfixed
        exact hfixed
      · rw [hdecides] at hfixed
        cases x with
        | success w d => exact absurd (hdecides.symm.trans hstop) Bool.noConfusion
        | failure g | defect g => exact hfixed
    exact of_stop hx hstop (hform false) (hform true)
  | failure g =>
    exact of_not_success rfl ((hy.and_of_not_success rfl).map f) ((hy.and_of_not_success rfl).map f)
  | defect g =>
    exact of_not_success rfl ((hy.and_of_not_success rfl).map f) ((hy.and_of_not_success rfl).map f)

end Insists

/-- **Greedy repetition and its committed form.**  Of two parsers with fixed replies that
    do not lie before their cursors, the first one is repeated, and the second one is a
    delimiter.  Free repetition succeeds, with the values of successes of the parser that
    consumed something, each from where the one before stopped, and it stops where the
    parser fails or consumes nothing; a defect there is its reply instead.  The committed
    form is the free form with one more try of the parser, and so are those of the other
    two repetitions, in which the step that is tried once more is the parser, and the
    delimiter with the parser behind it. -/
theorem Parser.repetition_committed {d : Parser} (hp : (p.matcher call).Constant S c)
    (hd : (d.matcher call).Constant S c) :
    (∃ vs e x, Matcher.Strides S (p.matcher call) c vs e ∧ (p.matcher call).Fixed S e x ∧
      x.moves e = false ∧
      ((∀ defect, x ≠ .defect defect) →
        ((Parser.many false p).matcher call).Fixed S c (.success (.list vs) e)) ∧
      ∀ defect, x = .defect defect →
        ((Parser.many false p).matcher call).Fixed S c (.defect defect)) ∧
    Insists S call p (.many false p) (.many true p) c ∧
    Insists S call p (.atLeastOnce false p) (.atLeastOnce true p) c ∧
    Insists S call (.and d p) (.delimited false p d) (.delimited true p d) c := by
  refine ⟨?_, .many hp, .behind _ hp hp, .behind _ hp (hd.and hp)⟩
  obtain ⟨vs, e, x, hstrides, hx, hstop, hmany⟩ := Matcher.many_fixed hp
  refine ⟨vs, e, x, hstrides, hx, hstop, fun hdefect => ?_, ?_⟩
  · have hend : x.decides false e = false := by
      cases x with
      | success w d => exact hstop
      | failure f => rfl
      | defect d => exact absurd rfl (hdefect d)
    have hfree := hmany false
    rw [hend] at hfree
    exact hfree
  · rintro defect rfl
    exact hmany false

/-- A rule takes `a` and `b`.  Over `abac` free repetition stops behind the first two
    characters; there the rule fails behind another `a`, and that is what the committed
    form replies. -/
theorem Parser.repetition_committed_cut :
    let pair : Parser := .rule ⟨⟨0, "pair"⟩, true⟩
    let comma : Parser := .string ","
    let start : Cursor := .start ['a', 'b', 'a', 'c']
    let w : World := ⟨[.defined (.and (.string "a") (.string "b"))], .empty, .empty, [], []⟩
    let n := w.depthLimit start
    (∃ w', (Parser.many false pair).matcher (World.call n) start w =
      some (.success (.list [.pair (.str "a") (.str "b")]) (start.skip 2), w')) ∧
    (∃ w', (Parser.many true pair).matcher (World.call n) start w =
      some (.failure (.unexpected (start.skip 3) "b"), w')) ∧
    Insists (World.Rested start.source w) (World.call n) pair (.many false pair)
      (.many true pair) start ∧
    Insists (World.Rested start.source w) (World.call n) (.and comma pair)
      (.delimited false pair comma) (.delimited true pair comma) start := by
  intro pair comma start w n
  have hdeferred : ∀ rule, (w.book.slot rule).factory = none := by
    rintro ⟨_ | index, name⟩ <;> rfl
  have hready : w.ReadyFor start.source := .of_no_entries rfl
  have hguard : w.guard.Recorded start.source := .fresh rfl
  have hsteady : w.Steady start.source := by
    refine World.steady_of_no_deferred hguard hdeferred ?_
    rintro ⟨_ | index, name⟩ body hslot
    · cases hslot
      exact ⟨trivial, trivial⟩
    · cases hslot
  have hpair : (pair.matcher (World.call n)).Constant (World.Rested start.source w) start :=
    World.constant_of_steady hdeferred (.start _) hready hguard hsteady trivial
  have hcomma : (comma.matcher (World.call n)).Constant (World.Rested start.source w) start :=
    World.constant_of_steady hdeferred (.start _) hready hguard hsteady trivial
  obtain ⟨_, hmany, _, hdelimited⟩ := repetition_committed hpair hcomma
  exact ⟨⟨_, rfl⟩, ⟨_, rfl⟩, hmany, hdelimited⟩

end Committed

end Descent
