/-
  Descent/Proofs/Expansion.lean
  =============================
  **Expansions** — all that using a rule can do.

  A use of a rule ends in one of four ways (`World.Called`): the rule has no body, it
  is being expanded at this place already, its outcome at this place is known, or its
  body is run between an entry into the guard and the outcome that replaces it.
  Whatever each of these keeps is kept by every run (`World.call_keeps`), and with it
  goes that no run moves backwards: the outcomes that the guard holds are at places
  behind the cursors they are for (`Guard.Sure`).
-/
import Descent.Proofs.Dialogue
import Descent.Proofs.Growth

namespace Descent

/-! ### The guard at one key -/

namespace Guard

variable {g : Guard} {rule other : RuleId} {offset offset' : Nat} {r : Reply} {memo : Memo}

theorem lookup?_enter_self : (g.enter rule offset).lookup? rule offset = some .expanding := by
  simp [lookup?, enter]

theorem lookup?_enter_of_ne (h : (other.index, offset') ≠ (rule.index, offset)) :
    (g.enter rule offset).lookup? other offset' = g.lookup? other offset' := by
  simp only [lookup?, enter]
  exact Entries.get?_put_of_ne h _ _

theorem lookup?_leave_self :
    (g.leave rule offset r).lookup? rule offset = (Memo.ofReply? r).map .done := by
  unfold leave
  split
  · rename_i memo hmemo
    rw [hmemo]
    simp [lookup?]
  · rename_i hmemo
    rw [hmemo]
    simp [lookup?]

theorem lookup?_leave_of_ne (h : (other.index, offset') ≠ (rule.index, offset)) :
    (g.leave rule offset r).lookup? other offset' = g.lookup? other offset' := by
  unfold leave
  split
  · simp only [lookup?]
    exact Entries.get?_put_of_ne h _ _
  · simp only [lookup?]
    exact Entries.get?_erase_of_ne h _

theorem lookup?_enter_done (h : (g.enter rule offset).lookup? other offset' = some (.done memo)) :
    g.lookup? other offset' = some (.done memo) := by
  by_cases hkey : (other.index, offset') = (rule.index, offset)
  · rw [Prod.mk.injEq] at hkey
    rw [lookup?, hkey.1, hkey.2, ← lookup?, lookup?_enter_self] at h
    cases h
  · rw [lookup?_enter_of_ne hkey] at h
    exact h

/-- An outcome that is there when a rule was left was there before, or is that of the
    rule. -/
theorem lookup?_leave_done (h : (g.leave rule offset r).lookup? other offset' = some (.done memo)) :
    other.index = rule.index ∧ offset' = offset ∧ Memo.ofReply? r = some memo ∨
      g.lookup? other offset' = some (.done memo) := by
  by_cases hkey : (other.index, offset') = (rule.index, offset)
  · left
    rw [Prod.mk.injEq] at hkey
    rw [lookup?, hkey.1, hkey.2, ← lookup?, lookup?_leave_self] at h
    rcases hmemo : Memo.ofReply? r with _ | memo'
    · rw [hmemo] at h
      cases h
    · rw [hmemo] at h
      cases h
      exact ⟨hkey.1, hkey.2, rfl⟩
  · right
    rw [lookup?_leave_of_ne hkey] at h
    exact h

end Guard

namespace Memo

/-- What was kept of a reply brings the reply back. -/
theorem restore_eq {text : List Char} {c : Cursor} (hc : c.Over text) {r : Reply} {memo : Memo}
    (hr : r.place.Over text) (h : ofReply? r = some memo) : memo.restore c = r := by
  cases r with
  | success v d =>
    have hd : c.relocate d.position = d := hc.relocate_eq hr
    cases h
    rw [restore, hd]
  | failure f =>
    have hd : c.relocate f.remainder.position = f.remainder := hc.relocate_eq hr
    cases h
    rw [restore, hd]
  | defect e => cases h

theorem defect?_restore (memo : Memo) (c : Cursor) : (memo.restore c).defect? = none := by
  cases memo <;> rfl

theorem defect?_of_ofReply? {r : Reply} {memo : Memo} (h : ofReply? r = some memo) :
    r.defect? = none := by
  cases r with
  | success | failure => rfl
  | defect e => cases h

/-- Something is kept of every reply that is no defect. -/
theorem exists_ofReply? {r : Reply} (h : r.defect? = none) : ∃ memo, ofReply? r = some memo := by
  cases r with
  | success | failure => exact ⟨_, rfl⟩
  | defect e => cases h

theorem ofReply?_restore (memo : Memo) (c : Cursor) : ofReply? (memo.restore c) = some memo := by
  cases memo <;> rfl

end Memo

/-! ### What a use of a rule does -/

namespace World

/-- Nobody listens to announcements. -/
instance : Watched World := .deaf World

def opened (h : Handle) (c : Cursor) (w : World) : World :=
  { (w.resolve h).2 with guard := w.guard.enter h.rule c.offset }

def closed (h : Handle) (c : Cursor) (r : Reply) (w : World) : World :=
  { w with guard := w.guard.leave h.rule c.offset r }

/-- How a use of a rule ends, where its body may nest `n` deep. -/
inductive Called (n : Nat) (h : Handle) (c : Cursor) (w : World) : Reply → World → Prop where
  | undefined (hnone : (w.resolve h).1 = none) :
    Called n h c w (.defect (.undefinedRule h.rule c)) w
  | reentered {body : Parser} (hbody : (w.resolve h).1 = some body)
    (hlookup : w.guard.lookup? h.rule c.offset = some .expanding) :
    Called n h c w (.defect (.leftRecursion h.rule c))
      ((w.resolve h).2.note (.reentered h.rule c.position))
  | served {body : Parser} {memo : Memo} (hbody : (w.resolve h).1 = some body)
    (hlookup : w.guard.lookup? h.rule c.offset = some (.done memo)) :
    Called n h c w (memo.restore c) ((w.resolve h).2.note (.served h.rule c.position))
  | expanded {body : Parser} {r : Reply} {w' : World} (hbody : (w.resolve h).1 = some body)
    (hlookup : w.guard.lookup? h.rule c.offset = none)
    (hrun : body.matcher (call n) c (w.opened h c) = some (r, w')) :
    Called n h c w r (w'.closed h c r)

variable {n : Nat} {h : Handle} {c : Cursor} {w w' : World} {r : Reply} {body : Parser}

theorem call_of_unresolved (hnone : (w.resolve h).1 = none) :
    call (n + 1) h c w = some (.defect (.undefinedRule h.rule c), w) := by
  rw [call, resolve_of_none hnone]

theorem call_of_resolved (hbody : (w.resolve h).1 = some body) :
    call (n + 1) h c w =
      match w.guard.lookup? h.rule c.offset with
      | some .expanding => some (.defect (.leftRecursion h.rule c),
          (w.resolve h).2.note (.reentered h.rule c.position))
      | some (.done memo) =>
        some (memo.restore c, (w.resolve h).2.note (.served h.rule c.position))
      | none =>
        match body.matcher (call n) c (w.opened h c) with
        | none => none
        | some (r, w) => some (r, w.closed h c r) := by
  have hguard := guard_resolve w h
  rw [call]
  rcases hresolve : w.resolve h with ⟨found, w₁⟩
  rw [hresolve] at hbody hguard
  simp only at hbody hguard
  subst hbody
  rcases hlookup : w.guard.lookup? h.rule c.offset with _ | _ | memo
  · have hopened : w.opened h c = { w₁ with guard := w.guard.enter h.rule c.offset } := by
      rw [opened, hresolve]
    simp only [hguard, hlookup, hopened]
    rfl
  · simp only [hguard, hlookup]
  · simp only [hguard, hlookup]

/-- **All that a use of a rule can do.** -/
theorem called_of_call (hcall : call (n + 1) h c w = some (r, w')) : Called n h c w r w' := by
  rcases hbody : (w.resolve h).1 with _ | body
  · rw [call_of_unresolved hbody] at hcall
    cases hcall
    exact .undefined hbody
  · rw [call_of_resolved hbody] at hcall
    rcases hlookup : w.guard.lookup? h.rule c.offset with _ | _ | memo
    · rw [hlookup] at hcall
      rcases hrun : body.matcher (call n) c (w.opened h c) with _ | ⟨r', w₁⟩
      · rw [hrun] at hcall
        cases hcall
      · rw [hrun] at hcall
        cases hcall
        exact .expanded hbody hlookup hrun
    · rw [hlookup] at hcall
      cases hcall
      exact .reentered hbody hlookup
    · rw [hlookup] at hcall
      cases hcall
      exact .served hbody hlookup

/-- A use of a rule that does not come back is stuck in the body of the rule. -/
theorem body_of_call_none (hcall : call (n + 1) h c w = none) :
    ∃ body, (w.resolve h).1 = some body ∧ w.guard.lookup? h.rule c.offset = none ∧
      body.matcher (call n) c (w.opened h c) = none := by
  rcases hbody : (w.resolve h).1 with _ | body
  · rw [call_of_unresolved hbody] at hcall
    cases hcall
  · rw [call_of_resolved hbody] at hcall
    rcases hlookup : w.guard.lookup? h.rule c.offset with _ | _ | memo
    · rw [hlookup] at hcall
      rcases hrun : body.matcher (call n) c (w.opened h c) with _ | ⟨r', w₁⟩
      · exact ⟨body, rfl, rfl, hrun⟩
      · rw [hrun] at hcall
        cases hcall
    · rw [hlookup] at hcall
      cases hcall
    · rw [hlookup] at hcall
      cases hcall

end World

/-! ### What every run keeps -/

/-- Every outcome that the guard holds is at a place behind the cursor it is for. -/
def Guard.Sure (text : List Char) (g : Guard) : Prop :=
  ∀ (rule : RuleId) (c : Cursor) (memo : Memo), c.Over text →
    g.lookup? rule c.offset = some (.done memo) → c.Reaches (memo.restore c).place

namespace Guard.Sure

variable {text : List Char} {g : Guard} {rule : RuleId} {c : Cursor} {r : Reply}

theorem of_no_entries (h : g.entries = []) : g.Sure text := by
  intro rule c memo _ hlookup
  rw [lookup?, h] at hlookup
  cases hlookup

theorem enter (hg : g.Sure text) (rule : RuleId) (offset : Nat) :
    (g.enter rule offset).Sure text := by
  intro other d memo hd hlookup
  exact hg other d memo hd (lookup?_enter_done hlookup)

theorem leave (hg : g.Sure text) (hc : c.Over text) (hr : c.Reaches r.place) :
    (g.leave rule c.offset r).Sure text := by
  intro other d memo hd hlookup
  rcases lookup?_leave_done hlookup with ⟨_, hoffset, hmemo⟩ | hbefore
  · obtain rfl : d = c := hd.eq_of_offset hc hoffset
    rw [Memo.restore_eq hd (hd.reaches hr) hmemo]
    exact hr
  · exact hg other d memo hd hbefore

end Guard.Sure

namespace World

/-- A property of worlds that no step of a run takes away. -/
structure Lasting (I : World → Prop) : Prop where
  note : ∀ r w, I w → I (w.note r)
  tally : ∀ label w, I w → I (w.tally label)
  resolve : ∀ k w, I w → I (w.resolve k).2
  opened : ∀ h c w, I w → w.guard.lookup? h.rule c.offset = none → I (w.opened h c)
  closed : ∀ h c r w w', I w → w.guard.lookup? h.rule c.offset = none → I w' →
    I (w'.closed h c r)

theorem Lasting.trivial : Lasting fun _ => True := by
  constructor <;> intros <;> exact True.intro

variable {text : List Char} {I : World → Prop}

/-- **What no step takes away lasts as long as a rule runs**, and the rule replies
    with a place that its cursor reaches. -/
theorem call_keeps (hI : Lasting I) (n : Nat) {h : Handle} {c : Cursor} {w w' : World} {r : Reply}
    (hc : c.Over text) (hw : w.guard.Sure text ∧ I w) (hcall : call n h c w = some (r, w')) :
    (w'.guard.Sure text ∧ I w') ∧ c.Reaches r.place := by
  induction n generalizing h c w w' r with
  | zero => cases hcall
  | succ n ih =>
    have hresolved : (w.resolve h).2.guard.Sure text ∧ I (w.resolve h).2 :=
      ⟨by rw [guard_resolve]; exact hw.1, hI.resolve h w hw.2⟩
    cases called_of_call hcall with
    | undefined => exact ⟨hw, .refl c⟩
    | reentered => exact ⟨⟨hresolved.1, hI.note _ _ hresolved.2⟩, .refl c⟩
    | served _ hlookup =>
      exact ⟨⟨hresolved.1, hI.note _ _ hresolved.2⟩, hw.1 h.rule c _ hc hlookup⟩
    | @expanded body r w₁ _ hlookup hrun =>
      -- The body is run with its own entry in the guard, which the outcome replaces.
      have hopened : (w.opened h c).guard.Sure text ∧ I (w.opened h c) :=
        ⟨hw.1.enter h.rule c.offset, hI.opened h c w hw.2 hlookup⟩
      obtain ⟨⟨hsure, hlasts⟩, hr⟩ := Parser.matcher_keeps (fun r s hs => ⟨hs.1, hI.note r s hs.2⟩)
        (fun label s hs => ⟨hs.1, hI.tally label s hs.2⟩)
        (fun _ _ _ _ _ hd hs hask => ih hd hs hask)
        hc hopened hrun
      exact ⟨⟨hsure.leave hc hr, hI.closed h c r w w₁ hw.2 hlookup hlasts⟩, hr⟩

theorem call_sure {n : Nat} {h : Handle} {c : Cursor} {w w' : World} {r : Reply}
    (hc : c.Over text) (hw : w.guard.Sure text) (hcall : call n h c w = some (r, w')) :
    w'.guard.Sure text ∧ c.Reaches r.place := by
  obtain ⟨⟨hsure, _⟩, hreach⟩ := call_keeps .trivial n hc ⟨hw, True.intro⟩ hcall
  exact ⟨hsure, hreach⟩

/-- **What no step takes away lasts as long as a parser runs**, and the parser replies
    with a place that its cursor reaches. -/
theorem matcher_keeps (hI : Lasting I) {n : Nat} {p : Parser} {c : Cursor} {w w' : World}
    {r : Reply} (hc : c.Over text) (hw : w.guard.Sure text ∧ I w)
    (hrun : p.matcher (call n) c w = some (r, w')) :
    (w'.guard.Sure text ∧ I w') ∧ c.Reaches r.place :=
  Parser.matcher_keeps (fun r s hs => ⟨hs.1, hI.note r s hs.2⟩)
    (fun label s hs => ⟨hs.1, hI.tally label s hs.2⟩)
    (fun _ _ _ _ _ hd hs hask => call_keeps hI n hd hs hask) hc hw hrun

end World

end Descent
