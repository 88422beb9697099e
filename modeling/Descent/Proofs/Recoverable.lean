/-
  Descent/Proofs/Recoverable.lean
  ===============================
  **What the guard holds can be found again** — by asking no rule but where the guard
  holds the outcome.

  While a rule is expanded, its body asks other rules, and each of them that replies
  with a value or a failure leaves its outcome in the guard before the body goes on.
  No outcome is taken away later.  So behind every outcome stand the outcomes that it
  was made of, and behind these others again, down to bodies that ask nothing
  (`World.Found`).

  This is more than that the outcomes are right.  A rule that is being expanded has no
  outcome, so none of those that have one can lead back to it: whoever runs a rule
  anew whose outcome another guard holds never meets left recursion.
-/
import Descent.Proofs.Depth

namespace Descent

/-! ### Dialogues with known replies -/

namespace Dialogue

/-- The dialogue comes to the reply when rules reply what is known, and asks no rule
    of which nothing is known. -/
def Recalls (known : Handle → Cursor → Reply → Prop) : Dialogue → Reply → Prop
  | .finish r', r => r' = r
  | .endless, _ => False
  | .started _ _ next, r | .fellShort _ next, r | .tally _ next, r => next.Recalls known r
  | .ask h c next, r => ∃ r₁, known h c r₁ ∧ r₁.defect? = none ∧ (next r₁).Recalls known r

theorem Recalls.mono {known known' : Handle → Cursor → Reply → Prop}
    (hknown : ∀ h c r, known h c r → known' h c r) {t : Dialogue} {r : Reply}
    (ht : t.Recalls known r) : t.Recalls known' r := by
  induction t with
  | finish r' => exact ht
  | endless => exact ht
  | started p d next ih | fellShort p next ih | tally p next ih => exact ih ht
  | ask k d next ih =>
    obtain ⟨r₁, hr₁, hdefect, hnext⟩ := ht
    exact ⟨r₁, hknown k d r₁ hr₁, hdefect, ih r₁ hnext⟩

end Dialogue

namespace World

variable {text : List Char} {n m m' : Nat} {h k : Handle} {c : Cursor} {w w' u : World} {r : Reply}
  {body : Parser} {t : Dialogue}

/-! ### Outcomes that are found again -/

/-- The guard holds the reply, and the body of the rule comes to it by way of such
    replies, which nest less than `m` deep. -/
def Found (w : World) : (m : Nat) → Handle → Cursor → Reply → Prop
  | 0, _, _, _ => False
  | m + 1, h, c, r =>
    ∃ memo body, w.guard.lookup? h.rule c.offset = some (.done memo) ∧ memo.restore c = r ∧
      (w.book.slot h.rule).body = some body ∧ (body.dialogue c).Recalls (w.Found m) r

namespace Found

theorem lookup (hfound : w.Found m h c r) :
    ∃ memo, w.guard.lookup? h.rule c.offset = some (.done memo) ∧ memo.restore c = r := by
  cases m with
  | zero => exact hfound.elim
  | succ m =>
    obtain ⟨memo, _, hlookup, hrestore, _, _⟩ := hfound
    exact ⟨memo, hlookup, hrestore⟩

theorem exists_body (hfound : w.Found m h c r) : ∃ body, (w.book.slot h.rule).body = some body := by
  cases m with
  | zero => exact hfound.elim
  | succ m =>
    obtain ⟨_, body, _, _, hslot, _⟩ := hfound
    exact ⟨body, hslot⟩

theorem not_expands (hfound : w.Found m h c r) :
    ¬ w.guard.Expands (h.rule.index, c.offset) := by
  intro hexpands
  obtain ⟨memo, hlookup, _⟩ := hfound.lookup
  rw [Guard.Expands, ← Guard.lookup?, hlookup] at hexpands
  cases hexpands

/-- The name of the rule says nothing about its outcome. -/
theorem congr (hindex : k.rule.index = h.rule.index) (hfound : w.Found m h c r) :
    w.Found m k c r := by
  cases m with
  | zero => exact hfound
  | succ m =>
    obtain ⟨memo, body, hlookup, hrestore, hslot, hrecalls⟩ := hfound
    refine ⟨memo, body, ?_, hrestore, ?_, hrecalls⟩
    · rw [Guard.lookup?, hindex]
      exact hlookup
    · rw [RuleBook.slot_congr hindex]
      exact hslot

/-- **What is found stays found**, however many outcomes and bodies are added. -/
theorem later (hdone : ∀ rule offset memo, w.guard.lookup? rule offset = some (.done memo) →
      u.guard.lookup? rule offset = some (.done memo))
    (hbook : w.book.Grows u.book) (hfound : w.Found m h c r) : u.Found m h c r := by
  induction m generalizing h c r with
  | zero => exact hfound
  | succ m ih =>
    obtain ⟨memo, body, hlookup, hrestore, hslot, hrecalls⟩ := hfound
    exact ⟨memo, body, hdone _ _ _ hlookup, hrestore, hbook _ _ hslot,
      hrecalls.mono fun _ _ _ => ih⟩

theorem succ (hfound : w.Found m h c r) : w.Found (m + 1) h c r := by
  induction m generalizing h c r with
  | zero => exact hfound.elim
  | succ m ih =>
    obtain ⟨memo, body, hlookup, hrestore, hslot, hrecalls⟩ := hfound
    exact ⟨memo, body, hlookup, hrestore, hslot, hrecalls.mono fun _ _ _ => ih⟩

theorem mono (hle : m ≤ m') (hfound : w.Found m h c r) : w.Found m' h c r := by
  induction hle with
  | refl => exact hfound
  | step _ ih => exact ih.succ

end Found

/-! ### Grounded guards -/

/-- Every outcome that the guard holds over the text is found again, and lies behind the
    cursor it is for. -/
structure Grounded (text : List Char) (w : World) : Prop where
  sure : w.guard.Sure text
  found : ∀ h c memo, c.Over text → w.guard.lookup? h.rule c.offset = some (.done memo) →
    ∃ m, w.Found m h c (memo.restore c)

theorem Grounded.of_no_entries (hentries : w.guard.entries = []) : w.Grounded text where
  sure := .of_no_entries hentries
  found h c memo _ hlookup := by
    rw [Guard.lookup?, hentries] at hlookup
    cases hlookup

/-- A world is grounded if all its outcomes come from a grounded one that it has grown
    out of. -/
theorem Grounded.later (hw : w.Grounded text)
    (hdone : ∀ rule offset memo, w.guard.lookup? rule offset = some (.done memo) ↔
      u.guard.lookup? rule offset = some (.done memo))
    (hbook : w.book.Grows u.book) : u.Grounded text where
  sure rule c memo hc hlookup := hw.sure rule c memo hc ((hdone _ _ _).mpr hlookup)
  found h c memo hc hlookup := by
    obtain ⟨m, hfound⟩ := hw.found h c memo hc ((hdone _ _ _).mpr hlookup)
    exact ⟨m, hfound.later (fun _ _ _ => (hdone _ _ _).mp) hbook⟩

theorem Grounded.opened (hw : w.Grounded text)
    (hlookup : w.guard.lookup? h.rule c.offset = none) : (w.opened h c).Grounded text := by
  refine hw.later (fun rule offset memo => ⟨fun hdone => ?_, Guard.lookup?_enter_done⟩)
    (w.grows_resolve h)
  -- The key of the rule had no entry, so the outcome is under another one.
  have hne : (rule.index, offset) ≠ (h.rule.index, c.offset) := by
    intro hkey
    rw [Prod.mk.injEq] at hkey
    rw [Guard.lookup?, hkey.1, hkey.2, ← Guard.lookup?, hlookup] at hdone
    cases hdone
  exact (Guard.lookup?_enter_of_ne hne).trans hdone

/-- **Recording the outcome of a body keeps the guard grounded**, if the body comes to it
    by way of outcomes that the guard holds. -/
theorem Grounded.closed (hw : w.Grounded text) (hc : c.Over text) (hr : c.Reaches r.place)
    (hexpands : w.guard.Expands (h.rule.index, c.offset))
    (hslot : (w.book.slot h.rule).body = some body)
    (hrecalls : r.defect? = none → ∃ m, (body.dialogue c).Recalls (w.Found m) r) :
    (w.closed h c r).Grounded text := by
  have hdone : ∀ rule offset memo, w.guard.lookup? rule offset = some (.done memo) →
      (w.closed h c r).guard.lookup? rule offset = some (.done memo) := by
    intro rule offset memo hlookup
    have hne : (rule.index, offset) ≠ (h.rule.index, c.offset) := by
      intro hkey
      rw [Guard.lookup?, hkey, hexpands] at hlookup
      cases hlookup
    exact (Guard.lookup?_leave_of_ne hne).trans hlookup
  refine ⟨hw.sure.leave hc hr, ?_⟩
  intro k d memo hd hlookup
  rcases Guard.lookup?_leave_done hlookup with ⟨hindex, hoffset, hmemo⟩ | hbefore
  · obtain rfl : d = c := hd.eq_of_offset hc hoffset
    obtain ⟨m, hrecalls⟩ := hrecalls (Memo.defect?_of_ofReply? hmemo)
    have hrestore : memo.restore d = r := Memo.restore_eq hd (hd.reaches hr) hmemo
    refine ⟨m + 1, memo, body, hlookup, rfl, ?_, ?_⟩
    · exact (RuleBook.body_congr hindex _).trans hslot
    · rw [hrestore]
      exact hrecalls.mono fun _ _ _ hfound => hfound.later hdone (.refl _)
  · obtain ⟨m, hfound⟩ := hw.found k d memo hd hbefore
    exact ⟨m, hfound.later hdone (.refl _)⟩

/-! ### Runs keep the guard grounded -/

theorem lasting_grows (book : RuleBook) : Lasting fun w => book.Grows w.book where
  note _ _ hw := hw
  tally _ _ hw := hw
  resolve rule w hw := hw.trans (w.grows_resolve rule)
  opened h _ w hw _ := hw.trans (w.grows_resolve h)
  closed _ _ _ _ _ _ _ hw := hw

theorem grows_hold (hc : c.Over text) (ht : t.Orderly c) (hw : w.guard.Sure text)
    (hhold : t.hold (call n) w = some (r, w')) : w.book.Grows w'.book :=
  (Dialogue.hold_keeps (I := fun s : World => s.guard.Sure text ∧ w.book.Grows s.book)
    (fun _ _ _ hs => hs) (fun _ _ hs => hs) (fun _ _ hs => hs)
    (fun _ _ _ _ _ hd hs hask => call_keeps (lasting_grows w.book) n hd hs hask)
    hc ht ⟨hw, .refl _⟩ hhold).1.2

/-- A dialogue that ends well is recalled from the guard that it leaves, if the rules that
    it asks leave their outcomes there. -/
theorem hold_grounded
    (hcall : ∀ {k : Handle} {d : Cursor} {w w' : World} {r : Reply}, d.Over text →
      w.Grounded text → call n k d w = some (r, w') →
      w'.Grounded text ∧ (r.defect? = none → ∃ m, w'.Found m k d r))
    (hc : c.Over text) (ht : t.Orderly c) (hw : w.Grounded text)
    (hhold : t.hold (call n) w = some (r, w')) :
    w'.Grounded text ∧ (r.defect? = none → ∃ m, t.Recalls (w'.Found m) r) := by
  induction t generalizing w with
  | finish r' =>
    cases hhold
    exact ⟨hw, fun _ => ⟨0, rfl⟩⟩
  | endless => cases hhold
  | started p d next ih => exact ih ht hw hhold
  | fellShort stop next ih =>
    exact ih (w := w.note (.fellShort stop)) ht (hw.later (fun _ _ _ => Iff.rfl) (.refl _)) hhold
  | tally label next ih =>
    exact ih (w := w.tally label) ht (hw.later (fun _ _ _ => Iff.rfl) (.refl _)) hhold
  | ask k d next ih =>
    have hd := hc.reaches ht.reaches
    rcases Dialogue.hold_ask_cases hhold with ⟨e, rfl, hask⟩ | ⟨r₁, w₁, hask, hr₁, hnext⟩
    · exact ⟨(hcall hd hw hask).1, fun hr => nomatch hr⟩
    · obtain ⟨hw₁, hfound⟩ := hcall hd hw hask
      have horderly := ht.after hr₁ (call_sure hd hw.sure hask).2
      obtain ⟨hw', hrest⟩ := ih r₁ horderly hw₁ hnext
      refine ⟨hw', fun hr => ?_⟩
      obtain ⟨m₁, hfound₁⟩ := hfound hr₁
      obtain ⟨m₂, hrest₂⟩ := hrest hr
      -- What the rule left in the guard is still there when the dialogue is over.
      have hkept := hold_kept (call_kept n) hc horderly hw₁.sure hnext
      have hfound' : w'.Found m₁ k d r₁ := by
        refine hfound₁.later ?_ (grows_hold hc horderly hw₁.sure hnext)
        exact fun rule offset memo => hkept.done (rule.index, offset) memo
      refine ⟨max m₁ m₂, r₁, hfound'.mono (Nat.le_max_left _ _), hr₁, ?_⟩
      exact hrest₂.mono fun _ _ _ hfound => hfound.mono (Nat.le_max_right _ _)

/-- **A use of a rule keeps the guard grounded**, and leaves its outcome there. -/
theorem call_grounded (n : Nat) (hc : c.Over text) (hw : w.Grounded text)
    (hcall : call n h c w = some (r, w')) :
    w'.Grounded text ∧ (r.defect? = none → ∃ m, w'.Found m h c r) := by
  induction n generalizing h c w w' r with
  | zero => cases hcall
  | succ n ih =>
    have hresolved : (w.resolve h).2.Grounded text := by
      refine hw.later (fun rule offset memo => ?_) (w.grows_resolve h)
      rw [guard_resolve]
    cases called_of_call hcall with
    | undefined => exact ⟨hw, fun hr => nomatch hr⟩
    | reentered =>
      exact ⟨hresolved.later (fun _ _ _ => Iff.rfl) (.refl _), fun hr => nomatch hr⟩
    | @served body memo _ hlookup =>
      have hnoted : ((w.resolve h).2.note (.served h.rule c.position)).Grounded text :=
        hresolved.later (fun _ _ _ => Iff.rfl) (.refl _)
      refine ⟨hnoted, fun _ => hnoted.found h c memo hc ?_⟩
      rw [← guard_resolve w h] at hlookup
      exact hlookup
    | @expanded body r w₁ hbody hlookup hrun =>
      rw [Parser.matcher_eq_hold] at hrun
      have horderly := body.orderly_dialogue c
      have hopened := hw.opened hlookup
      obtain ⟨hw₁, hrecalls⟩ := hold_grounded ih hc horderly hopened hrun
      have hreach : c.Reaches r.place := (call_sure hc hw.sure hcall).2
      have hslot : (w₁.book.slot h.rule).body = some body :=
        grows_hold hc horderly hopened.sure hrun _ _ (body_resolve hbody)
      have hexpands : w₁.guard.Expands (h.rule.index, c.offset) :=
        ((hold_kept (call_kept n) hc horderly hopened.sure hrun).expands_iff _).mpr
          Guard.lookup?_enter_self
      have hclosed := hw₁.closed hc hreach hexpands hslot hrecalls
      refine ⟨hclosed, fun hr => ?_⟩
      obtain ⟨memo, hmemo⟩ := Memo.exists_ofReply? hr
      have hlookup' : (w₁.closed h c r).guard.lookup? h.rule c.offset = some (.done memo) := by
        rw [World.closed, Guard.lookup?_leave_self, hmemo, Option.map_some]
      have hfound := hclosed.found h c memo hc hlookup'
      rw [Memo.restore_eq hc (hc.reaches hreach) hmemo] at hfound
      exact hfound

end World

end Descent
