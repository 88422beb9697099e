/-
  Descent/Proofs/Reference.lean
  =============================
  **Plain expansion** — what a grammar means when nobody keeps watch.

  `World.expand` runs the body of a rule wherever the rule is used.  It asks no guard
  whether the rule is being expanded already and keeps no outcome, so a left recursive
  rule nests expansions without end: there is no depth at which the run comes back.
  More depth changes no outcome (`World.expand_mono`), so a grammar has at most one
  outcome at a cursor, at whatever depth it shows.

  Rules that are deferred are built on the way.  A run that ended with a value or an
  ordinary failure has built all that it needs; in every world where those rules have
  their bodies it ends the same way and builds nothing (`World.expand_settled`).
-/
import Descent.Proofs.Expansion

namespace Descent

namespace World

/-- What a rule does when its body is simply run; expansions nest at most `fuel`
    deep. -/
def expand : (fuel : Nat) → Handle → Matcher World
  | 0, _, _, _ => none
  | fuel + 1, h, c, w =>
    match w.resolve h with
    | (none, w) => some (.defect (.undefinedRule h.rule c), w)
    | (some body, w) => body.matcher (expand fuel) c w

variable {text : List Char} {n m : Nat} {h : Handle} {c : Cursor} {w w' u : World} {r : Reply}
  {p body : Parser} {t : Dialogue}

theorem expand_of_unresolved (hnone : (w.resolve h).1 = none) :
    expand (n + 1) h c w = some (.defect (.undefinedRule h.rule c), w) := by
  rw [expand, resolve_of_none hnone]

theorem expand_of_resolved (hbody : (w.resolve h).1 = some body) :
    expand (n + 1) h c w = body.matcher (expand n) c (w.resolve h).2 := by
  rw [expand]
  rcases hresolve : w.resolve h with ⟨found, w₁⟩
  rw [hresolve] at hbody
  simp only at hbody
  subst hbody
  rfl

theorem expand_of_body (hslot : (w.book.slot h.rule).body = some body) :
    expand (n + 1) h c w = body.matcher (expand n) c w := by
  have hresolve := resolve_of_body hslot
  rw [expand_of_resolved (congrArg Prod.fst hresolve), hresolve]

/-- It makes no difference whether the rule was resolved before. -/
theorem expand_resolve (n : Nat) (h : Handle) (c : Cursor) (w : World) :
    expand n h c (w.resolve h).2 = expand n h c w := by
  rcases hbody : (w.resolve h).1 with _ | body
  · rw [resolve_of_none hbody]
  · cases n with
    | zero => rfl
    | succ n => rw [expand_of_resolved hbody, expand_of_body (body_resolve hbody)]

/-! ### More depth -/

/-- **More depth changes no outcome.** -/
theorem expand_mono (hle : n ≤ m) {x : Reply × World} (hexpand : expand n h c w = some x) :
    expand m h c w = some x := by
  induction n generalizing m h c w x with
  | zero => cases hexpand
  | succ n ih =>
    obtain ⟨m, rfl⟩ := Nat.exists_eq_add_of_le' hle
    have hnm : n ≤ m + n := Nat.le_add_left n m
    rw [← Nat.add_assoc]
    rcases hbody : (w.resolve h).1 with _ | body
    · rw [expand_of_unresolved hbody] at hexpand ⊢
      exact hexpand
    · rw [expand_of_resolved hbody, Parser.matcher_eq_hold] at hexpand ⊢
      exact Dialogue.hold_mono (fun _ _ _ _ hask => ih hnm hask) hexpand

theorem hold_expand_mono (hle : n ≤ m) (hhold : t.hold (expand n) w = some (r, w')) :
    t.hold (expand m) w = some (r, w') :=
  Dialogue.hold_mono (fun _ _ _ _ hask => expand_mono hle hask) hhold

/-- What comes back at two depths is the same. -/
theorem expand_unique {x y : Reply × World} (hn : expand n h c w = some x)
    (hm : expand m h c w = some y) : x = y := by
  have hn' := expand_mono (Nat.le_max_left n m) hn
  have hm' := expand_mono (Nat.le_max_right n m) hm
  rw [hn'] at hm'
  exact Option.some.inj hm'

theorem hold_expand_unique {r' : Reply} {u : World} (hn : t.hold (expand n) w = some (r, w'))
    (hm : t.hold (expand m) w = some (r', u)) : r = r' ∧ w' = u := by
  have hn' := hold_expand_mono (Nat.le_max_left n m) hn
  have hm' := hold_expand_mono (Nat.le_max_right n m) hm
  rw [hn'] at hm'
  exact Prod.mk.inj (Option.some.inj hm')

/-! ### Later worlds -/

/-- Plain expansion goes forward and takes no body away. -/
theorem expand_keeps (n : Nat) (hc : c.Over text) (hexpand : expand n h c w = some (r, w')) :
    w.book.Grows w'.book ∧ c.Reaches r.place := by
  induction n generalizing h c w w' r with
  | zero => cases hexpand
  | succ n ih =>
    rcases hbody : (w.resolve h).1 with _ | body
    · rw [expand_of_unresolved hbody] at hexpand
      cases hexpand
      exact ⟨.refl _, .refl c⟩
    · rw [expand_of_resolved hbody] at hexpand
      exact Parser.matcher_keeps (I := fun s : World => w.book.Grows s.book) (fun _ _ hs => hs)
        (fun _ _ hs => hs)
        (fun _ _ _ _ _ hd hs hask => ⟨hs.trans (ih hd hask).1, (ih hd hask).2⟩) hc
        (w.grows_resolve h) hexpand

theorem hold_expand_keeps (hc : c.Over text) (ht : t.Orderly c)
    (hhold : t.hold (expand n) w = some (r, w')) : w.book.Grows w'.book ∧ c.Reaches r.place :=
  Dialogue.hold_keeps (I := fun s : World => w.book.Grows s.book) (fun _ _ _ hs => hs)
    (fun _ _ hs => hs) (fun _ _ hs => hs)
    (fun _ _ _ _ _ hd hs hask => ⟨hs.trans (expand_keeps n hd hask).1, (expand_keeps n hd hask).2⟩)
    hc ht (.refl _) hhold

/-- A dialogue is settled if the rules are that it asks. -/
theorem hold_settled
    (hcall : ∀ {k : Handle} {d : Cursor} {r : Reply} {w w' u : World}, d.Over text →
      expand n k d w = some (r, w') → r.defect? = none → w'.book.Grows u.book →
      ∃ u', expand n k d u = some (r, u') ∧ SameRules u u')
    (hc : c.Over text) (ht : t.Orderly c) (hhold : t.hold (expand n) w = some (r, w'))
    (hr : r.defect? = none) (hu : w'.book.Grows u.book) :
    ∃ u', t.hold (expand n) u = some (r, u') ∧ SameRules u u' := by
  induction t generalizing w u with
  | finish r' =>
    cases hhold
    exact ⟨u, rfl, .refl u⟩
  | endless => cases hhold
  | started p d next ih => exact ih ht hhold hu
  | fellShort stop next ih =>
    obtain ⟨u', hu', hsame⟩ := ih (u := u.note (.fellShort stop)) ht hhold hu
    exact ⟨u', hu', hsame.book, hsame.registry⟩
  | tally label next ih =>
    obtain ⟨u', hu', hsame⟩ := ih (u := u.tally label) ht hhold hu
    exact ⟨u', hu', hsame.book, hsame.registry⟩
  | ask k d next ih =>
    rcases Dialogue.hold_ask_cases hhold with ⟨e, rfl, _⟩ | ⟨r₁, w₁, hask, hr₁, hnext⟩
    · cases hr
    · have hd := hc.reaches ht.reaches
      have horderly := ht.after hr₁ (expand_keeps n hd hask).2
      -- The rule was asked before the rest was built, and `u` has the rest as well.
      have hgrows := (hold_expand_keeps hc horderly hnext).1
      obtain ⟨u₁, hask', hsame₁⟩ := hcall hd hask hr₁ (hgrows.trans hu)
      obtain ⟨u', hnext', hsame⟩ := ih r₁ horderly hnext (u := u₁) (hsame₁.book ▸ hu)
      refine ⟨u', ?_, hsame₁.trans hsame⟩
      rw [Dialogue.hold_ask_of_reply hask' hr₁]
      exact hnext'

/-- **What ended well ends the same way later**, and builds nothing there. -/
theorem expand_settled (n : Nat) (hc : c.Over text) (hexpand : expand n h c w = some (r, w'))
    (hr : r.defect? = none) (hu : w'.book.Grows u.book) :
    ∃ u', expand n h c u = some (r, u') ∧ SameRules u u' := by
  induction n generalizing h c w w' u r with
  | zero => cases hexpand
  | succ n ih =>
    rcases hbody : (w.resolve h).1 with _ | body
    · rw [expand_of_unresolved hbody] at hexpand
      cases hexpand
      cases hr
    · rw [expand_of_resolved hbody, Parser.matcher_eq_hold] at hexpand
      have horderly := body.orderly_dialogue c
      have hgrows := (hold_expand_keeps hc horderly hexpand).1
      have hslot := hu _ _ (hgrows _ _ (body_resolve hbody))
      rw [expand_of_body hslot, Parser.matcher_eq_hold]
      exact hold_settled ih hc horderly hexpand hr hu

end World

end Descent
