/-
  Descent/Proofs/GuardKept.lean
  =============================
  **The guard is left in order** — by every run, however it ends.

  A use of a rule marks its place while the body runs, and the body may use rules that
  mark their own.  A success or a failure turns the mark into an outcome, and a defect,
  which runs through all rules around it, takes the mark away again.  So the marks that
  are there at the end are those that were there at the start.  No outcome is lost or
  replaced on the way: a body is run only under a key that has no entry, and that key
  is the only one that its rule touches.

  `Guard.Kept` says this of two guards.  It composes, so it is enough to look at one
  expansion (`Guard.Kept.closing`); a dialogue adds up what the rules do that it asks
  (`World.hold_kept`).
-/
import Descent.Proofs.Forward

namespace Descent

namespace Guard

def Expands (g : Guard) (key : Nat × Nat) : Prop := g.entries.get? key = some .expanding

variable {g g' g'' : Guard} {rule : RuleId} {offset offset' : Nat} {r : Reply} {key : Nat × Nat}

/-! ### Entering and leaving, one key at a time -/

theorem get?_enter_of_ne (hkey : key ≠ (rule.index, offset)) :
    (g.enter rule offset).entries.get? key = g.entries.get? key :=
  Entries.get?_put_of_ne hkey .expanding g.entries

theorem get?_leave_of_ne (hkey : key ≠ (rule.index, offset)) :
    (g.leave rule offset r).entries.get? key = g.entries.get? key := by
  have hsame : (g.leave rule offset r).lookup? ⟨key.1, rule.name⟩ key.2 = _ :=
    lookup?_leave_of_ne hkey
  exact hsame

theorem source_leave : (g.leave rule offset r).source = g.source := by
  unfold leave
  split <;> rfl

theorem expands_enter :
    (g.enter rule offset).Expands key ↔ key = (rule.index, offset) ∨ g.Expands key := by
  by_cases hkey : key = (rule.index, offset)
  · subst hkey
    exact iff_of_true lookup?_enter_self (.inl rfl)
  · rw [Expands, Expands, get?_enter_of_ne hkey]
    exact (or_iff_right hkey).symm

theorem expands_leave :
    (g.leave rule offset r).Expands key ↔ key ≠ (rule.index, offset) ∧ g.Expands key := by
  by_cases hkey : key = (rule.index, offset)
  · subst hkey
    have hself : (g.leave rule offset r).lookup? rule offset = _ := lookup?_leave_self
    refine iff_of_false ?_ fun h => h.1 rfl
    intro hexpands
    rw [Expands, ← lookup?, hself] at hexpands
    rcases hmemo : Memo.ofReply? r with _ | memo
    · rw [hmemo] at hexpands
      cases hexpands
    · rw [hmemo] at hexpands
      cases hexpands
  · rw [Expands, get?_leave_of_ne hkey]
    exact (and_iff_right hkey).symm

/-! ### What a run may do to a guard -/

/-- The guard `g'` has the entries of `g` and perhaps more outcomes, at or behind the
    offset. -/
structure Kept (offset : Nat) (g g' : Guard) : Prop where
  source_eq : g'.source = g.source
  expands_iff : ∀ key, g'.Expands key ↔ g.Expands key
  done : ∀ key memo, g.entries.get? key = some (.done memo) →
    g'.entries.get? key = some (.done memo)
  added : ∀ key entry, g'.entries.get? key = some entry → g.entries.get? key = none →
    (∃ memo, entry = .done memo) ∧ offset ≤ key.2

namespace Kept

theorem refl (offset : Nat) (g : Guard) : Kept offset g g where
  source_eq := rfl
  expands_iff _ := Iff.rfl
  done _ _ hdone := hdone
  added key entry hentry hnone := by
    rw [hnone] at hentry
    cases hentry

theorem trans (h : Kept offset g g') (h' : Kept offset g' g'') : Kept offset g g'' where
  source_eq := h'.source_eq.trans h.source_eq
  expands_iff key := (h'.expands_iff key).trans (h.expands_iff key)
  done key memo hdone := h'.done key memo (h.done key memo hdone)
  added key entry hentry hnone := by
    rcases hmiddle : g'.entries.get? key with _ | entry'
    · exact h'.added key entry hentry hmiddle
    · obtain ⟨⟨memo, rfl⟩, hle⟩ := h.added key entry' hmiddle hnone
      have hsame := h'.done key memo hmiddle
      rw [hentry] at hsame
      exact ⟨⟨memo, Option.some.inj hsame⟩, hle⟩

theorem mono (hle : offset ≤ offset') (h : Kept offset' g g') : Kept offset g g' where
  source_eq := h.source_eq
  expands_iff := h.expands_iff
  done := h.done
  added key entry hentry hnone :=
    ⟨(h.added key entry hentry hnone).1, Nat.le_trans hle (h.added key entry hentry hnone).2⟩

/-- **An expansion leaves the guard in order** if the body does: the mark of the rule is
    the outcome in the end, or is gone. -/
theorem closing (hfree : g.lookup? rule offset = none)
    (h : Kept offset (g.enter rule offset) g') : Kept offset g (g'.leave rule offset r) where
  source_eq := source_leave.trans h.source_eq
  expands_iff key := by
    rw [expands_leave, h.expands_iff, expands_enter]
    constructor
    · rintro ⟨hne, heq | hexpands⟩
      · exact absurd heq hne
      · exact hexpands
    · intro hexpands
      refine ⟨?_, .inr hexpands⟩
      rintro rfl
      rw [Expands, ← lookup?, hfree] at hexpands
      cases hexpands
  done key memo hdone := by
    have hne : key ≠ (rule.index, offset) := by
      rintro rfl
      rw [← lookup?, hfree] at hdone
      cases hdone
    rw [get?_leave_of_ne hne]
    refine h.done key memo ?_
    rw [get?_enter_of_ne hne]
    exact hdone
  added key entry hentry hnone := by
    by_cases hkey : key = (rule.index, offset)
    · subst hkey
      rw [← lookup?, lookup?_leave_self] at hentry
      obtain ⟨memo, _, rfl⟩ := Option.map_eq_some_iff.mp hentry
      exact ⟨⟨memo, rfl⟩, Nat.le_refl _⟩
    · rw [get?_leave_of_ne hkey] at hentry
      refine h.added key entry hentry ?_
      rw [get?_enter_of_ne hkey]
      exact hnone

end Kept

end Guard

/-! ### Every run -/

namespace World

variable {text : List Char} {n : Nat} {h : Handle} {c : Cursor} {w w' : World} {r : Reply}
  {t : Dialogue}

/-- A dialogue leaves the guard in order if the rules do that it asks. -/
theorem hold_kept
    (hcall : ∀ {k : Handle} {d : Cursor} {w w' : World} {r : Reply}, d.Over text →
      w.guard.Sure text → call n k d w = some (r, w') → w.guard.Kept d.offset w'.guard)
    (hc : c.Over text) (ht : t.Orderly c) (hw : w.guard.Sure text)
    (hhold : t.hold (call n) w = some (r, w')) : w.guard.Kept c.offset w'.guard := by
  induction t generalizing w with
  | finish r' =>
    cases hhold
    exact .refl _ _
  | endless => cases hhold
  | started p d next ih => exact ih ht hw hhold
  | fellShort stop next ih => exact ih (w := w.note (.fellShort stop)) ht hw hhold
  | tally label next ih => exact ih (w := w.tally label) ht hw hhold
  | ask k d next ih =>
    have hd := hc.reaches ht.reaches
    have hle : c.offset ≤ d.offset := ht.reaches.offset_le
    rcases Dialogue.hold_ask_cases hhold with ⟨e, rfl, hask⟩ | ⟨r₁, w₁, hask, hr₁, hnext⟩
    · exact (hcall hd hw hask).mono hle
    · obtain ⟨hsure, hreach⟩ := call_sure hd hw hask
      have hrest := ih r₁ (ht.after hr₁ hreach) hsure hnext
      exact ((hcall hd hw hask).mono hle).trans hrest

/-- **A use of a rule leaves the guard in order.** -/
theorem call_kept (n : Nat) (hc : c.Over text) (hw : w.guard.Sure text)
    (hcall : call n h c w = some (r, w')) : w.guard.Kept c.offset w'.guard := by
  induction n generalizing h c w w' r with
  | zero => cases hcall
  | succ n ih =>
    cases called_of_call hcall with
    | undefined => exact .refl _ _
    | reentered | served =>
      show w.guard.Kept c.offset (w.resolve h).2.guard
      rw [guard_resolve]
      exact .refl _ _
    | @expanded body r w₁ _ hlookup hrun =>
      rw [Parser.matcher_eq_hold] at hrun
      have hopened : (w.opened h c).guard.Sure text := hw.enter h.rule c.offset
      exact (hold_kept ih hc (body.orderly_dialogue c) hopened hrun).closing hlookup

theorem matcher_kept {p : Parser} (hc : c.Over text) (hw : w.guard.Sure text)
    (hrun : p.matcher (call n) c w = some (r, w')) : w.guard.Kept c.offset w'.guard := by
  rw [Parser.matcher_eq_hold] at hrun
  exact hold_kept (call_kept n) hc (p.orderly_dialogue c) hw hrun

/-- A use of a rule leaves under expansion what was. -/
theorem expands_call (hc : c.Over text) (hw : w.guard.Sure text)
    (hcall : call n h c w = some (r, w')) (key : Nat × Nat) :
    w'.guard.Expands key ↔ w.guard.Expands key :=
  (call_kept n hc hw hcall).expands_iff key

/-- **Every run leaves the guard in order.**  A parser is run at a cursor over a text,
    under a guard whose entries were recorded over the text by runs that are over or
    still under way.  However the run ends, the rules under expansion are the same
    before and after; every outcome that the guard held is still there and is the same;
    and every entry that was added is an outcome, at the offset of the cursor or behind
    it.  If no rule was being expanded at the start, none is at the end.

    The depth `n` is arbitrary: `World.run` is the case of the depth that it computes,
    and the other depths are those of the parsers that run inside it. -/
theorem guard_kept {p : Parser} (hc : c.Over text) (hw : w.guard.Recorded text)
    (hrun : p.matcher (call n) c w = some (r, w')) :
    (∀ key, w'.guard.Expands key ↔ w.guard.Expands key) ∧
    (∀ key memo, w.guard.entries.get? key = some (.done memo) →
      w'.guard.entries.get? key = some (.done memo)) ∧
    (∀ key entry, w'.guard.entries.get? key = some entry → w.guard.entries.get? key = none →
      (∃ memo, entry = .done memo) ∧ c.offset ≤ key.2) ∧
    ((∀ key, ¬ w.guard.Expands key) → ∀ key, ¬ w'.guard.Expands key) := by
  have hkept := matcher_kept hc hw.sure hrun
  refine ⟨hkept.expands_iff, hkept.done, hkept.added, ?_⟩
  intro hidle key hexpands
  exact hidle key ((hkept.expands_iff key).mp hexpands)

/-- A rule is being expanded at the start, and another one has an outcome there.  The run
    takes the outcome from the guard, adds one behind it, and ends in left recursion. -/
theorem guard_kept_by_defect :
    let item : Parser := .rule ⟨⟨0, "item"⟩, true⟩
    let sum : Parser := .rule ⟨⟨1, "sum"⟩, true⟩
    let start : Cursor := .start ['a', 'b']
    let book : RuleBook := [.defined (.take 1), .defined (.choice false (.and sum item) item),
      .defined item]
    let g : Guard := ⟨none, [((0, 0), .done (.parsed (.str "a") ⟨1, 1, 2⟩)), ((2, 0), .expanding)]⟩
    ∃ w', run (.and item (.and item sum)) start ⟨book, .empty, g, [], []⟩ =
        some (.defect (.leftRecursion ⟨1, "sum"⟩ (start.skip 2)), w') ∧
      w'.guard.entries.get? (0, 1) = some (.done (.parsed (.str "b") ⟨2, 1, 3⟩)) ∧
      w'.guard.entries.get? (0, 0) = some (.done (.parsed (.str "a") ⟨1, 1, 2⟩)) ∧
      w'.guard.Expands (2, 0) ∧ ¬ w'.guard.Expands (1, 2) := by
  intro item sum start book g
  let world (g : Guard) : World := ⟨book, .empty, g, [], []⟩
  let entered : Guard := Guard.empty.enter ⟨2, "list"⟩ 0
  have hfirst : run item start (world entered) = some (_, world g) := rfl
  have hg : g.Recorded ['a', 'b'] :=
    .ran (w := world entered) (.entered _ _ (.fresh rfl)) (.start _) hfirst
  have hrun : run (.and item (.and item sum)) start (world g) =
      some (.defect (.leftRecursion ⟨1, "sum"⟩ (start.skip 2)), _) := rfl
  obtain ⟨hexpands, hdone, _, _⟩ := guard_kept (.start _) hg hrun
  refine ⟨_, hrun, rfl, hdone _ _ rfl, (hexpands _).mpr rfl, ?_⟩
  intro hleft
  cases (hexpands _).mp hleft

end World

end Descent
