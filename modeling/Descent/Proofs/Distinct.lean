/-
  Descent/Proofs/Distinct.lean
  ============================
  **Expectations never repeat** — in any failure that a run replies.

  A failure is made with its labels named once each (`Failure.of`), and pooling the
  expectations of two failures adds only those that are new.  A name put in place of all
  expectations is a single one.  Nothing else is ever done to them: combinators pass
  failures on, and the guard brings back what it was given.  So a run under a guard that
  holds no failure with a repetition replies none (`World.distinct_matcher`), and leaves
  such a guard behind.  Every guard that runs have filled is one (`Guard.Recorded.distinct`).
-/
import Descent.Proofs.Forward
import Descent.Proofs.Outcomes

namespace Descent

/-! ### Labels -/

theorem addLabels_append (known first second : List String) :
    addLabels known (first ++ second) = addLabels (addLabels known first) second :=
  List.foldl_append

theorem addLabels_cons (known : List String) (label : String) (rest : List String) :
    addLabels known (label :: rest) =
      addLabels (if label ∈ known then known else known ++ [label]) rest := rfl

theorem nodup_addLabels {known : List String} (hknown : known.Nodup) (fresh : List String) :
    (addLabels known fresh).Nodup := by
  induction fresh generalizing known with
  | nil => exact hknown
  | cons label rest ih =>
    rw [addLabels_cons]
    by_cases hmem : label ∈ known
    · rw [if_pos hmem]
      exact ih hknown
    · rw [if_neg hmem]
      refine ih (List.nodup_append.mpr ⟨hknown, by simp, ?_⟩)
      intro other hother label' hlabel heq
      rw [List.mem_singleton] at hlabel
      exact hmem (by rwa [← hlabel, ← heq])

def Reply.Distinct : Reply → Prop
  | .failure f => f.expectations.Nodup
  | .success _ _ | .defect _ => True

theorem Failure.nodup_of (c : Cursor) (message : String) (labels : List String) :
    (Failure.of c message labels).expectations.Nodup :=
  nodup_addLabels .nil labels

theorem Failure.nodup_furthest {f g : Failure} (hf : f.expectations.Nodup)
    (hg : g.expectations.Nodup) : (f.furthest g).expectations.Nodup := by
  unfold furthest
  split
  · exact hg
  · exact hf
  · exact nodup_addLabels hf _

def Demand.distinct {σ : Type} (I : σ → Prop) : Demand σ :=
  ⟨I, fun f => f.expectations.Nodup, False⟩

theorem Demand.distinct_lenient {σ : Type} (I : σ → Prop) : (Demand.distinct I).Lenient where
  made := Failure.nodup_of
  relabelled _ _ := List.nodup_cons.mpr ⟨List.not_mem_nil, .nil⟩
  pooled _ _ := Failure.nodup_furthest

theorem Demand.met_distinct {σ : Type} {I : σ → Prop} {c : Cursor} {x : Option (Reply × σ)} :
    (Demand.distinct I).Met c x ↔ ∀ r s, x = some (r, s) → I s ∧ r.Distinct := by
  rcases x with _ | ⟨r, s⟩
  · exact iff_of_true id fun _ _ h => nomatch h
  · constructor
    · rintro ⟨hs, _, hf⟩ _ _ ⟨⟩
      refine ⟨hs, ?_⟩
      cases r with
      | failure f => exact hf f rfl
      | success | defect => exact True.intro
    · intro h
      obtain ⟨hs, hr⟩ := h r s rfl
      refine ⟨hs, False.elim, ?_⟩
      rintro f rfl
      exact hr

/-! ### Guards -/

def Guard.Distinct (g : Guard) : Prop :=
  ∀ rule offset memo, g.lookup? rule offset = some (.done memo) → ∀ c, (memo.restore c).Distinct

namespace Guard.Distinct

variable {g : Guard}

theorem of_no_entries (h : g.entries = []) : g.Distinct := by
  intro rule offset memo hlookup
  rw [lookup?, h] at hlookup
  cases hlookup

theorem enter (hg : g.Distinct) (rule : RuleId) (offset : Nat) : (g.enter rule offset).Distinct :=
  fun other offset' memo hlookup => hg other offset' memo (lookup?_enter_done hlookup)

theorem leave (hg : g.Distinct) (rule : RuleId) (offset : Nat) {r : Reply} (hr : r.Distinct) :
    (g.leave rule offset r).Distinct := by
  intro other offset' memo hlookup c
  rcases lookup?_leave_done hlookup with ⟨_, _, hmemo⟩ | hbefore
  · -- What is kept of a failure are its own expectations.
    cases r with
    | success v d =>
      cases hmemo
      exact True.intro
    | failure f =>
      cases hmemo
      exact hr
    | defect e => cases hmemo
  · exact hg other offset' memo hbefore c

end Guard.Distinct

namespace World

theorem fulfils_distinct {n : Nat} {start : Cursor}
    (hcall : ∀ h, Matcher.Fulfils (.distinct fun w : World => w.guard.Distinct) start (call n h))
    (p : Parser) :
    Matcher.Fulfils (.distinct fun w : World => w.guard.Distinct) start (p.matcher (call n)) := by
  have hnone : ∀ q : Parser, False → Matcher.Moves (fun w : World => w.guard.Distinct) start
      (q.matcher (call n)) := fun _ => False.elim
  exact Parser.fulfils_matcher (Demand.distinct_lenient _) (fun _ _ hs => hs) (fun _ _ hs => hs)
    hcall hnone False.elim

theorem distinct_call (n : Nat) (start : Cursor) (h : Handle) :
    Matcher.Fulfils (.distinct fun w : World => w.guard.Distinct) start (call n h) := by
  induction n generalizing h with
  | zero => exact fun _ _ _ _ => id
  | succ n ih =>
    intro c w hc hw
    refine Demand.met_distinct.mpr fun r w' hcall => ?_
    have hresolved : (w.resolve h).2.guard.Distinct := by
      rw [guard_resolve]
      exact hw
    cases called_of_call hcall with
    | undefined => exact ⟨hw, True.intro⟩
    | reentered => exact ⟨hresolved, True.intro⟩
    | @served body memo _ hlookup => exact ⟨hresolved, hw _ _ memo hlookup c⟩
    | @expanded body r w₁ _ _ hrun =>
      have hbody := fulfils_distinct ih body c (w.opened h c) hc (hw.enter _ _)
      obtain ⟨hw₁, hr⟩ := Demand.met_distinct.mp hbody r w₁ hrun
      exact ⟨hw₁.leave _ _ hr, hr⟩

/-- **No run replies a failure with a repetition**, and none leaves one in the guard. -/
theorem distinct_matcher {n : Nat} {p : Parser} {c : Cursor} {w w' : World} {r : Reply}
    (hw : w.guard.Distinct) (hrun : p.matcher (call n) c w = some (r, w')) :
    w'.guard.Distinct ∧ r.Distinct :=
  Demand.met_distinct.mp
    (fulfils_distinct (distinct_call n c) p c w (fun _ => .refl c) hw) r w' hrun

end World

theorem Guard.Recorded.distinct {text : List Char} {g : Guard} (h : g.Recorded text) :
    g.Distinct := by
  induction h with
  | fresh h => exact .of_no_entries h
  | entered rule offset _ ih => exact ih.enter rule offset
  | ran _ _ hrun ih => exact (World.distinct_matcher ih hrun).1

end Descent
