/-
  Descent/Proofs/Transparency.lean
  ================================
  **The guard cannot be told from its absence** — by anyone who looks at outcomes.

  With a guard that knows nothing at the start, a run ends as plain expansion does
  wherever plain expansion ends.  Outcomes that are used again are no other than those
  that would be found anew; that is `World.Faithful`.  Two things are left to show.

  * Left recursion is reported only where plain expansion does not come back.  A rule
    that is used within its own expansion, at the same place, needs one more depth
    than it is given, whatever that is.  The rule may have been entered long before,
    so that is shown for all rules under expansion at once (`World.Stuck`).
  * Where the run does not come back, plain expansion does not either.  The depth of
    the run does not give out, so it is stuck in a loop that asks no rule again, and
    plain expansion reaches the same loop.
-/
import Descent.Proofs.Depth
import Descent.Proofs.Faithful

namespace Descent

namespace World

variable {text : List Char} {n k : Nat} {h : Handle} {c : Cursor} {w w' u : World} {r : Reply}
  {body : Parser} {t : Dialogue}

/-! ### Left recursion -/

/-- Plain expansion to the depth `k` does not come back from any rule that is being
    expanded, once the rules have the bodies that the book `later` gives them. -/
def Stuck (text : List Char) (k : Nat) (w : World) (later : RuleBook) : Prop :=
  ∀ (h : Handle) (d : Cursor), d.Over text → w.guard.Expands (h.rule.index, d.offset) →
    ∀ u : World, later.Grows u.book → expand k h d u = none

theorem Stuck.of_succ {later : RuleBook} (hw : w.Stuck text (k + 1) later) :
    w.Stuck text k later := by
  intro h d hd hexpands u hu
  rcases hexpand : expand k h d u with _ | x
  · rfl
  · have hsucc := expand_mono (Nat.le_succ k) hexpand
    rw [hw h d hd hexpands u hu] at hsucc
    cases hsucc

/-- The world `u` is the plain counterpart of one that a run from `w` to `w'` passes
    through: it has the rules of `w`, or all that the run has built. -/
def Beside (w w' u : World) : Prop := SameRules w u ∨ w'.book.Grows u.book

/-- A use of a rule that ended well goes the same way beside a longer run. -/
theorem Faithful.beside {w₁ : World} (hcall : Faithful text w w₁ r fun m u => expand m h c u)
    (hc : c.Over text) (hr : r.defect? = none) (hgrows : w₁.book.Grows w'.book)
    (hu : Beside w w' u) : ∃ m u', expand m h c u = some (r, u') ∧ Beside w₁ w' u' := by
  have hfollows := hcall.follows (Reply.isLeftRecursion_of_defect?_none hr)
  rcases hu with hsame | hlater
  · obtain ⟨m, u', hexpand, hsame'⟩ := hfollows u hsame
    exact ⟨m, u', hexpand, .inl hsame'⟩
  · obtain ⟨m, v, hexpand, hsame⟩ := hfollows w (.refl w)
    have hv : v.book.Grows u.book := by
      rw [hsame.book]
      exact hgrows.trans hlater
    obtain ⟨u', hexpand', hsame'⟩ := expand_settled m hc hexpand hr hv
    refine ⟨m, u', hexpand', .inr ?_⟩
    rw [hsame'.book]
    exact hlater

/-- A dialogue that ends in left recursion does not come back from plain expansion, if
    the rules do not that it asks. -/
theorem hold_stuck
    (hcall : ∀ {k : Nat} {h : Handle} {d : Cursor} {w w' u : World} {r : Reply}, d.Over text →
      w.Sound text → call n h d w = some (r, w') → r.isLeftRecursion = true →
      w.Stuck text k w'.book → Beside w w' u → expand k h d u = none)
    (hc : c.Over text) (ht : t.Orderly c) (hw : w.Sound text)
    (hhold : t.hold (call n) w = some (r, w')) (hr : r.isLeftRecursion = true)
    (hstuck : w.Stuck text k w'.book) (hu : Beside w w' u) : t.hold (expand k) u = none := by
  induction t generalizing w u with
  | finish r' =>
    cases hhold
    rw [Reply.isLeftRecursion_of_defect?_none ht.1] at hr
    cases hr
  | endless => rfl
  | started p d next ih => exact ih ht hw hhold hstuck hu
  | fellShort stop next ih =>
    exact ih (w := w.note (.fellShort stop)) (u := u.note (.fellShort stop)) ht hw hhold hstuck
      (hu.imp (fun hsame => ⟨hsame.book, hsame.registry⟩) id)
  | tally label next ih =>
    exact ih (w := w.tally label) (u := u.tally label) ht hw hhold hstuck
      (hu.imp (fun hsame => ⟨hsame.book, hsame.registry⟩) id)
  | ask h d next ih =>
    have hd := hc.reaches ht.reaches
    rcases Dialogue.hold_ask_cases hhold with ⟨e, rfl, hask⟩ | ⟨r₁, w₁, hask, hr₁, hnext⟩
    · exact Dialogue.hold_ask_of_none (hcall hd hw hask hr hstuck hu)
    · have horderly := ht.after hr₁ (call_sure hd hw.sure hask).2
      have hfirst := call_faithful n hd hw hask
      have hrest := hold_faithful (call_faithful n) hc horderly hfirst.sound hnext
      obtain ⟨m, u₁, hexpand, hu₁⟩ := hfirst.beside hd hr₁ hrest.grows hu
      have hstuck₁ : w₁.Stuck text k w'.book := fun h' d' hd' hexpands =>
        hstuck h' d' hd' ((expands_call hd hw.sure hask _).mp hexpands)
      -- To the depth `k` plain expansion replies the same as the rule did, if anything.
      rcases hexpand' : expand k h d u with _ | x
      · exact Dialogue.hold_ask_of_none hexpand'
      · obtain rfl := expand_unique hexpand hexpand'
        rw [Dialogue.hold_ask_of_reply hexpand' hr₁]
        exact ih r₁ horderly hfirst.sound hnext hstuck₁ hu₁

/-- **Where left recursion is reported, plain expansion does not come back**: not to the
    depth `k`, if it does not come back to that depth from the rules that are being
    expanded. -/
theorem call_stuck (n : Nat) (hc : c.Over text) (hw : w.Sound text)
    (hcall : call n h c w = some (r, w')) (hr : r.isLeftRecursion = true)
    (hstuck : w.Stuck text k w'.book) (hu : Beside w w' u) : expand k h c u = none := by
  induction n generalizing k h c w w' u r with
  | zero => cases hcall
  | succ n ih =>
    cases called_of_call hcall with
    | undefined => cases hr
    | reentered hbody hlookup =>
      -- The rule is one of those that are stuck; that was said of later worlds only, and
      -- resolving the rule leads to one.
      have hresolved : expand k h c (u.resolve h).2 = none := by
        refine hstuck h c hc hlookup _ ?_
        rcases hu with hsame | hlater
        · exact (hsame.resolve h).2.book ▸ .refl _
        · exact hlater.trans (u.grows_resolve h)
      rw [expand_resolve] at hresolved
      exact hresolved
    | @served body memo =>
      rw [Reply.isLeftRecursion_of_defect?_none (memo.defect?_restore c)] at hr
      cases hr
    | @expanded body r w₁ hbody hlookup hrun =>
      rw [Parser.matcher_eq_hold] at hrun
      have horderly := body.orderly_dialogue c
      have hslot : (w₁.book.slot h.rule).body = some body :=
        (hold_faithful (call_faithful n) hc horderly (hw.opened h c) hrun).grows h.rule body
          (body_resolve hbody)
      have hrest : ∀ {k : Nat} {v : World}, (w.opened h c).Stuck text k w₁.book →
          Beside (w.opened h c) w₁ v → (body.dialogue c).hold (expand k) v = none :=
        fun hstuck hv => hold_stuck ih hc horderly (hw.opened h c) hrun hr hstuck hv
      -- The rule itself is now being expanded too.  Its body cannot do with a depth that
      -- the rule cannot do with, and the rule cannot do with one more than its body.
      have hopened : ∀ k, w.Stuck text k w₁.book → (w.opened h c).Stuck text k w₁.book := by
        intro k
        induction k with
        | zero =>
          intro _ _ _ _ _ _ _
          rfl
        | succ k ihk =>
          intro houter h' d hd hexpands v hv
          rcases Guard.expands_enter.mp hexpands with hkey | hexpands'
          · rw [Prod.mk.injEq] at hkey
            obtain rfl : d = c := hd.eq_of_offset hc hkey.2
            have hslot' : (v.book.slot h'.rule).body = some body :=
              (RuleBook.body_congr hkey.1 v.book).trans (hv h.rule body hslot)
            rw [expand_of_body hslot', Parser.matcher_eq_hold]
            exact hrest (ihk houter.of_succ) (.inr hv)
          · exact houter h' d hd hexpands' v hv
      cases k with
      | zero => rfl
      | succ k =>
        have hinner := hopened k hstuck.of_succ
        rcases hu with hsame | hlater
        · obtain ⟨hbody', hsame'⟩ := hsame.resolve h
          rw [expand_of_resolved (hbody'.trans hbody), Parser.matcher_eq_hold]
          exact hrest hinner (.inl ⟨hsame'.book, hsame'.registry⟩)
        · rw [expand_of_body (hlater h.rule body hslot), Parser.matcher_eq_hold]
          exact hrest hinner (.inr hlater)

/-! ### Runs that do not come back -/

section Endless

variable {start : Cursor} {capacity : Nat}

/-- A dialogue that does not end does not come back from plain expansion, if the rules
    do not that it asks. -/
theorem hold_endless
    (hcall : ∀ {h : Handle} {d : Cursor} {w u : World}, d.Over text → start.Reaches d →
      w.Sound text → w.Room start capacity n → call n h d w = none → SameRules w u →
      expand k h d u = none)
    (hc : c.Over text) (hstart : start.Reaches c) (ht : t.Orderly c) (hw : w.Sound text)
    (hroom : w.Room start capacity n) (hhold : t.hold (call n) w = none) (hu : SameRules w u) :
    t.hold (expand k) u = none := by
  induction t generalizing w u with
  | finish r' => cases hhold
  | endless => rfl
  | started p d next ih => exact ih ht hw hroom hhold hu
  | fellShort stop next ih =>
    exact ih (w := w.note (.fellShort stop)) (u := u.note (.fellShort stop)) ht hw
      ⟨hroom.capacity_le, hroom.exists_keys⟩
      hhold ⟨hu.book, hu.registry⟩
  | tally label next ih =>
    exact ih (w := w.tally label) (u := u.tally label) ht hw ⟨hroom.capacity_le, hroom.exists_keys⟩
      hhold ⟨hu.book, hu.registry⟩
  | ask h d next ih =>
    have hd := hc.reaches ht.reaches
    rcases Dialogue.hold_ask_none_cases hhold with hask | ⟨r₁, w₁, hask, hr₁, hnext⟩
    · exact Dialogue.hold_ask_of_none (hcall hd (hstart.trans ht.reaches) hw hroom hask hu)
    · have horderly := ht.after hr₁ (call_sure hd hw.sure hask).2
      have hfirst := call_faithful n hd hw hask
      obtain ⟨m, u₁, hexpand, hu₁⟩ :=
        hfirst.follows (Reply.isLeftRecursion_of_defect?_none hr₁) u hu
      rcases hexpand' : expand k h d u with _ | x
      · exact Dialogue.hold_ask_of_none hexpand'
      · obtain rfl := expand_unique hexpand hexpand'
        rw [Dialogue.hold_ask_of_reply hexpand' hr₁]
        exact ih r₁ horderly hfirst.sound (hroom.call hd hw.sure hask) hnext hu₁

/-- **Where a use of a rule does not come back, plain expansion does not either.** -/
theorem call_endless (n : Nat) (hc : c.Over text) (hstart : start.Reaches c) (hw : w.Sound text)
    (hroom : w.Room start capacity n) (hcall : call n h c w = none) (hu : SameRules w u) :
    expand k h c u = none := by
  induction n generalizing k h c w u with
  | zero => exact absurd hroom.pos (Nat.lt_irrefl 0)
  | succ n ih =>
    obtain ⟨body, hbody, hlookup, hrun⟩ := body_of_call_none hcall
    cases k with
    | zero => rfl
    | succ k =>
      obtain ⟨hbody', hsame⟩ := hu.resolve h
      rw [Parser.matcher_eq_hold] at hrun
      rw [expand_of_resolved (hbody'.trans hbody), Parser.matcher_eq_hold]
      exact hold_endless ih hc hstart (body.orderly_dialogue c) (hw.opened h c)
        (hroom.opened hstart hbody hlookup) hrun ⟨hsame.book, hsame.registry⟩

end Endless

/-! ### Whole runs -/

theorem expand_of_leftRecursive {p : Parser} (hc : c.Over text) (hw : w.guard.entries = [])
    (hrun : run p c w = some (r, w')) (hr : r.isLeftRecursion = true) (n : Nat) :
    p.matcher (expand n) c w = none := by
  rw [run, Parser.matcher_eq_hold] at hrun
  rw [Parser.matcher_eq_hold]
  -- Nothing is being expanded, so nothing has to be stuck.
  have hstuck : w.Stuck text n w'.book := by
    intro h d _ hexpands
    rw [Guard.Expands, hw] at hexpands
    cases hexpands
  exact hold_stuck (call_stuck _) hc (p.orderly_dialogue c) (.of_no_entries hw) hrun hr hstuck
    (.inl (.refl w))

/-- Where plain expansion comes back, the run replies the same. -/
theorem run_of_expand {p : Parser} (hc : c.Over text) (hw : w.guard.entries = [])
    (hplain : p.matcher (expand n) c w = some (r, u)) :
    r.isLeftRecursion = false ∧ ∃ w', run p c w = some (r, w') := by
  have hsound : w.Sound text := .of_no_entries hw
  have horderly := p.orderly_dialogue c
  rcases hrun : run p c w with _ | ⟨r', w'⟩
  · rw [run, Parser.matcher_eq_hold] at hrun
    have hnone := hold_endless (k := n) (call_endless _) hc (.refl c) horderly hsound
      (Room.of_run c w) hrun (.refl w)
    rw [Parser.matcher_eq_hold, hnone] at hplain
    cases hplain
  · rcases hr' : r'.isLeftRecursion with _ | _
    · rw [run, Parser.matcher_eq_hold] at hrun
      have hfaithful := hold_faithful (call_faithful _) hc horderly hsound hrun
      obtain ⟨m, u', hplain', _⟩ := hfaithful.follows hr' w (.refl w)
      rw [Parser.matcher_eq_hold] at hplain
      obtain ⟨rfl, _⟩ := hold_expand_unique hplain hplain'
      exact ⟨hr', w', rfl⟩
    · rw [expand_of_leftRecursive hc hw hrun hr' n] at hplain
      cases hplain

/-- **The guard is transparent.**  A run at a cursor over a text, under a guard without
    entries, replies something else than left recursion if and only if plain expansion
    comes back, to whatever depth that takes; and then both reply the same.  Where the
    run replies left recursion, plain expansion does not come back at all. -/
theorem run_transparent {p : Parser} (hc : c.Over text) (hw : w.guard.entries = []) :
    (∀ r, (r.isLeftRecursion = false ∧ ∃ w', run p c w = some (r, w')) ↔
      ∃ n w', p.matcher (expand n) c w = some (r, w')) ∧
    ∀ r w', run p c w = some (r, w') → r.isLeftRecursion = true →
      ∀ n, p.matcher (expand n) c w = none := by
  refine ⟨fun r => ⟨?_, ?_⟩, fun r w' => expand_of_leftRecursive hc hw⟩
  · rintro ⟨hr, w', hrun⟩
    rw [run, Parser.matcher_eq_hold] at hrun
    have hfaithful :=
      hold_faithful (call_faithful _) hc (p.orderly_dialogue c) (.of_no_entries hw) hrun
    obtain ⟨n, u, hplain, _⟩ := hfaithful.follows hr w (.refl w)
    rw [← Parser.matcher_eq_hold] at hplain
    exact ⟨n, u, hplain⟩
  · rintro ⟨n, u, hplain⟩
    exact run_of_expand hc hw hplain

/-- One rule takes a character, and is used twice at the start; another one begins with
    itself.  Plain expansion takes the character both times, and never comes back from
    the other rule. -/
theorem run_transparent_served_and_reentered :
    let one : Parser := .rule ⟨⟨0, "one"⟩, true⟩
    let sum : Parser := .rule ⟨⟨1, "sum"⟩, true⟩
    let start : Cursor := .start ['a']
    let w : World := ⟨[.defined (.scan fun _ => .accept 1 .unit),
      .defined (.choice false (.and sum one) one)], .empty, .empty, [], []⟩
    (∃ w', run (.and (.preview one) one) start w =
        some (.success (.pair (.present .unit) .unit) (start.skip 1), w') ∧
      w'.journal = [.served ⟨0, "one"⟩ .start]) ∧
    (∃ n w', (Parser.and (.preview one) one).matcher (expand n) start w =
        some (.success (.pair (.present .unit) .unit) (start.skip 1), w')) ∧
    (∃ w', run sum start w = some (.defect (.leftRecursion ⟨1, "sum"⟩ start), w')) ∧
    ∀ n, sum.matcher (expand n) start w = none := by
  intro one sum start w
  have hserved : run (.and (.preview one) one) start w =
      some (.success (.pair (.present .unit) .unit) (start.skip 1), _) := rfl
  have hreentered : run sum start w = some (.defect (.leftRecursion ⟨1, "sum"⟩ start), _) := rfl
  refine ⟨⟨_, hserved, rfl⟩, ?_, ⟨_, hreentered⟩, ?_⟩
  · exact ((run_transparent (.start _) rfl).1 _).mp ⟨rfl, _, hserved⟩
  · exact (run_transparent (.start _) rfl).2 _ _ hreentered rfl

end World

end Descent
