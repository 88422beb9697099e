/-
  Descent/Proofs/Faithful.lean
  ============================
  **Outcomes used again** — why it is safe to take them from the guard.

  An outcome is put into the guard while some rules are being expanded, and it is taken
  out while others are.  What it was found under does not matter: the guard holds only
  what plain expansion comes to in the same world and in every later one
  (`World.Sound`).  A run that starts with such a guard ends with one, and whatever it
  replies but left recursion is the outcome of plain expansion (`World.call_faithful`).
-/
import Descent.Proofs.Reference

namespace Descent

def Reply.isLeftRecursion : Reply → Bool
  | .defect (.leftRecursion _ _) => true
  | _ => false

theorem Reply.isLeftRecursion_of_defect?_none {r : Reply} (h : r.defect? = none) :
    r.isLeftRecursion = false := by
  cases r with
  | success | failure => rfl
  | defect e => cases h

namespace World

variable {text : List Char} {n : Nat} {h : Handle} {c : Cursor} {w w' u : World} {r : Reply}
  {body : Parser} {t : Dialogue}

/-! ### Sound guards -/

/-- Every outcome that the guard holds is the one of plain expansion, in this world and
    in every later one. -/
def Sound (text : List Char) (w : World) : Prop :=
  ∀ (h : Handle) (c : Cursor) (memo : Memo), c.Over text →
    w.guard.lookup? h.rule c.offset = some (.done memo) →
    ∀ u : World, w.book.Grows u.book →
      ∃ n u', expand n h c u = some (memo.restore c, u') ∧ SameRules u u'

namespace Sound

theorem of_no_entries (hentries : w.guard.entries = []) : w.Sound text := by
  intro h c memo _ hlookup
  rw [Guard.lookup?, hentries] at hlookup
  cases hlookup

/-- Plain expansion goes forward, so the outcomes are at places behind. -/
theorem sure (hw : w.Sound text) : w.guard.Sure text := by
  intro rule c memo hc hlookup
  obtain ⟨n, _, hexpand, _⟩ := hw ⟨rule, true⟩ c memo hc hlookup w (.refl _)
  exact (expand_keeps n hc hexpand).2

/-- What is sound stays sound when rules get their bodies. -/
theorem later (hw : w.Sound text) (hguard : u.guard = w.guard) (hbook : w.book.Grows u.book) :
    u.Sound text := by
  intro h c memo hc hlookup v hv
  rw [hguard] at hlookup
  exact hw h c memo hc hlookup v (hbook.trans hv)

theorem opened (hw : w.Sound text) (h : Handle) (c : Cursor) : (w.opened h c).Sound text := by
  intro h' d memo hd hlookup v hv
  exact hw h' d memo hd (Guard.lookup?_enter_done hlookup) v ((w.grows_resolve h).trans hv)

/-- **Recording the outcome of plain expansion is sound**, if the world in which it was
    found has the rules of `w` at the end. -/
theorem closed (hw : w.Sound text) (hc : c.Over text)
    (hslot : (w.book.slot h.rule).body = some body)
    (hplain : r.defect? = none → ∃ n u u', (body.dialogue c).hold (expand n) u = some (r, u') ∧
      u'.book = w.book) : (w.closed h c r).Sound text := by
  intro h' d memo hd hlookup v hv
  rcases Guard.lookup?_leave_done hlookup with ⟨hindex, hoffset, hmemo⟩ | hbefore
  · obtain rfl : d = c := hd.eq_of_offset hc hoffset
    have hr := Memo.defect?_of_ofReply? hmemo
    obtain ⟨n, u, u', hhold, hbook⟩ := hplain hr
    have horderly := body.orderly_dialogue d
    have hreach := (hold_expand_keeps hd horderly hhold).2
    have hlater : u'.book.Grows v.book := by
      rw [hbook]
      exact hv
    -- What the body came to in `u` it comes to in every later world, `v` among them.
    obtain ⟨v', hhold', hsame⟩ := hold_settled (expand_settled n) hd horderly hhold hr hlater
    have hslot' : (v.book.slot h'.rule).body = some body :=
      (RuleBook.body_congr hindex v.book).trans (hv h.rule body hslot)
    refine ⟨n + 1, v', ?_, hsame⟩
    rw [Memo.restore_eq hd (hd.reaches hreach) hmemo, expand_of_body hslot',
      Parser.matcher_eq_hold]
    exact hhold'
  · exact hw h' d memo hd hbefore v hv

end Sound

/-! ### Faithful runs -/

/-- The run from `w` to `w'` that replied `r` is faithful to plain expansion, as it is
    done from a world to a depth. -/
structure Faithful (text : List Char) (w w' : World) (r : Reply)
    (plain : Nat → World → Option (Reply × World)) : Prop where
  sound : w'.Sound text
  grows : w.book.Grows w'.book
  follows : r.isLeftRecursion = false → ∀ u, SameRules w u →
    ∃ n u', plain n u = some (r, u') ∧ SameRules w' u'

/-- A dialogue is faithful if the rules are that it asks. -/
theorem hold_faithful
    (hcall : ∀ {k : Handle} {d : Cursor} {w w' : World} {r : Reply}, d.Over text → w.Sound text →
      call n k d w = some (r, w') → Faithful text w w' r fun m u => expand m k d u)
    (hc : c.Over text) (ht : t.Orderly c) (hw : w.Sound text)
    (hhold : t.hold (call n) w = some (r, w')) :
    Faithful text w w' r fun m u => t.hold (expand m) u := by
  induction t generalizing w with
  | finish r' =>
    cases hhold
    exact ⟨hw, .refl _, fun _ u hu => ⟨0, u, rfl, hu⟩⟩
  | endless => cases hhold
  | started p d next ih => exact ih ht hw hhold
  | fellShort stop next ih =>
    obtain ⟨hsound, hgrows, hfollows⟩ := ih (w := w.note (.fellShort stop)) ht hw hhold
    exact ⟨hsound, hgrows,
      fun hr u hu => hfollows hr (u.note (.fellShort stop)) ⟨hu.book, hu.registry⟩⟩
  | tally label next ih =>
    obtain ⟨hsound, hgrows, hfollows⟩ := ih (w := w.tally label) ht hw hhold
    exact ⟨hsound, hgrows, fun hr u hu => hfollows hr (u.tally label) ⟨hu.book, hu.registry⟩⟩
  | ask k d next ih =>
    have hd := hc.reaches ht.reaches
    rcases Dialogue.hold_ask_cases hhold with ⟨e, rfl, hask⟩ | ⟨r₁, w₁, hask, hr₁, hnext⟩
    · obtain ⟨hsound, hgrows, hfollows⟩ := hcall hd hw hask
      refine ⟨hsound, hgrows, fun hr u hu => ?_⟩
      obtain ⟨m, u', hask', hsame⟩ := hfollows hr u hu
      exact ⟨m, u', Dialogue.hold_ask_of_defect hask', hsame⟩
    · have horderly := ht.after hr₁ (call_sure hd hw.sure hask).2
      have hfirst := hcall hd hw hask
      have hrest := ih r₁ horderly hfirst.sound hnext
      refine ⟨hrest.sound, hfirst.grows.trans hrest.grows, fun hr u hu => ?_⟩
      obtain ⟨m, u₁, hask', hsame₁⟩ :=
        hfirst.follows (Reply.isLeftRecursion_of_defect?_none hr₁) u hu
      obtain ⟨m', u', hnext', hsame⟩ := hrest.follows hr u₁ hsame₁
      -- The depth must do for what is asked and for what comes after it.
      refine ⟨max m m', u', ?_, hsame⟩
      have hask'' := expand_mono (Nat.le_max_left m m') hask'
      show (Dialogue.ask k d next).hold (expand (max m m')) u = some (r, u')
      rw [Dialogue.hold_ask_of_reply hask'' hr₁]
      exact hold_expand_mono (Nat.le_max_right m m') hnext'

/-- **Every use of a rule is faithful.** -/
theorem call_faithful (n : Nat) (hc : c.Over text) (hw : w.Sound text)
    (hcall : call n h c w = some (r, w')) : Faithful text w w' r fun m u => expand m h c u := by
  induction n generalizing h c w w' r with
  | zero => cases hcall
  | succ n ih =>
    have hgrows := w.grows_resolve h
    have hsound : (w.resolve h).2.Sound text := hw.later (w.guard_resolve h) hgrows
    cases called_of_call hcall with
    | undefined hnone =>
      refine ⟨hw, .refl _, fun _ u hu => ⟨1, u, ?_, hu⟩⟩
      exact expand_of_unresolved ((hu.resolve h).1.trans hnone)
    | reentered => exact ⟨hsound, hgrows, fun hr => nomatch hr⟩
    | @served body memo hbody hlookup =>
      refine ⟨hsound, hgrows, fun _ u hu => ?_⟩
      have hsame := (hu.resolve h).2
      have hlater : w.book.Grows (u.resolve h).2.book := by
        rw [hsame.book]
        exact hgrows
      obtain ⟨m, u', hexpand, hsame'⟩ := hw h c memo hc hlookup _ hlater
      rw [expand_resolve] at hexpand
      exact ⟨m, u', hexpand, hsame.book ▸ hsame'.book, hsame.registry ▸ hsame'.registry⟩
    | @expanded body r w₁ hbody hlookup hrun =>
      rw [Parser.matcher_eq_hold] at hrun
      have hrest := hold_faithful ih hc (body.orderly_dialogue c) (hw.opened h c) hrun
      have hslot : (w₁.book.slot h.rule).body = some body :=
        hrest.grows h.rule body (body_resolve hbody)
      refine ⟨?_, hgrows.trans hrest.grows, fun hr u hu => ?_⟩
      · refine hrest.sound.closed hc hslot fun hr => ?_
        obtain ⟨m, u', hplain, hsame⟩ :=
          hrest.follows (Reply.isLeftRecursion_of_defect?_none hr) (w.opened h c) (.refl _)
        exact ⟨m, _, u', hplain, hsame.book⟩
      · obtain ⟨hbody', hsame⟩ := hu.resolve h
        obtain ⟨m, u', hplain, hsame'⟩ :=
          hrest.follows hr (u.resolve h).2 ⟨hsame.book, hsame.registry⟩
        refine ⟨m + 1, u', ?_, hsame'.book, hsame'.registry⟩
        show expand (m + 1) h c u = some (r, u')
        rw [expand_of_resolved (hbody'.trans hbody), Parser.matcher_eq_hold]
        exact hplain

end World

end Descent
