/-
  Descent/Proofs/Depth.lean
  =========================
  **How deep expansions nest** — why the depth of a run never gives out.

  A rule is expanded only where the guard has no entry for it, and its own entry stays
  until the expansion is over (`World.expands_call`).  So the keys under which rules
  are being expanded all differ.  A rule that is expanded has its place below the
  capacity of the book, and it is expanded at a cursor that the first one reaches:
  there are no more keys than `World.depthLimit` counts.

  `World.Room` says how many expansions may still be nested within those that are
  under way.  A run starts with room for as many as its depth, an expansion takes up
  one of them, and there is always room for one more (`World.Room.pos`).
-/
import Descent.Proofs.GuardKept
import Mathlib.Data.Finset.Prod

namespace Descent

namespace World

variable {text : List Char} {n : Nat} {h : Handle} {c : Cursor} {w w' : World} {r : Reply}

/-! ### Room for expansions -/

def keysFrom (capacity : Nat) (c : Cursor) : Finset (Nat × Nat) :=
  Finset.range capacity ×ˢ (Finset.range (c.rest.length + 1)).image fun n => (c.skip n).offset

theorem card_keysFrom_le (capacity : Nat) (c : Cursor) :
    (keysFrom capacity c).card ≤ capacity * (c.rest.length + 1) := by
  rw [keysFrom, Finset.card_product, Finset.card_range]
  refine Nat.mul_le_mul_left capacity ?_
  exact Finset.card_image_le.trans (Nat.le_of_eq (Finset.card_range _))

theorem mem_keysFrom {capacity index : Nat} {d : Cursor} (hindex : index < capacity)
    (hcd : c.Reaches d) : (index, d.offset) ∈ keysFrom capacity c := by
  obtain ⟨n, hn, rfl⟩ := hcd.exists_skip
  refine Finset.mem_product.mpr ⟨Finset.mem_range.mpr hindex, ?_⟩
  exact Finset.mem_image_of_mem _ (Finset.mem_range.mpr (Nat.lt_succ_of_le hn))

/-- Within the expansions that are under way, `n` more can be nested in a run from the
    cursor `start`. -/
structure Room (start : Cursor) (capacity n : Nat) (w : World) : Prop where
  capacity_le : w.book.capacity ≤ capacity
  exists_keys : ∃ keys ⊆ keysFrom capacity start, (∀ key ∈ keys, w.guard.Expands key) ∧
    capacity * (start.rest.length + 1) < n + keys.card

theorem lasting_capacity_le (capacity : Nat) : Lasting fun w => w.book.capacity ≤ capacity where
  note _ _ hw := hw
  tally _ _ hw := hw
  resolve rule w hw := (w.capacity_resolve_le rule).trans hw
  opened h _ w hw _ := (w.capacity_resolve_le h).trans hw
  closed _ _ _ _ _ _ _ hw := hw

namespace Room

variable {start : Cursor} {capacity : Nat}

theorem of_run (c : Cursor) (w : World) : w.Room c w.book.capacity (w.depthLimit c) :=
  ⟨Nat.le_refl _, ∅, Finset.empty_subset _, by simp, Nat.lt_succ_self _⟩

/-- **There is always room for one more expansion.** -/
theorem pos (hw : w.Room start capacity n) : 0 < n := by
  obtain ⟨keys, hkeys, _, hroom⟩ := hw.exists_keys
  have hcard := (Finset.card_le_card hkeys).trans (card_keysFrom_le capacity start)
  omega

/-- An expansion takes up room for one. -/
theorem opened (hw : w.Room start capacity (n + 1)) (hc : start.Reaches c) {body : Parser}
    (hbody : (w.resolve h).1 = some body)
    (hlookup : w.guard.lookup? h.rule c.offset = none) :
    (w.opened h c).Room start capacity n := by
  obtain ⟨keys, hkeys, hexpands, hroom⟩ := hw.exists_keys
  have hcapacity : (w.resolve h).2.book.capacity ≤ capacity :=
    (w.capacity_resolve_le h).trans hw.capacity_le
  -- The guard has no entry under the key, so it is not among those counted.
  have hfresh : (h.rule.index, c.offset) ∉ keys := by
    intro hmem
    have hexpanding := hexpands _ hmem
    rw [Guard.Expands, ← Guard.lookup?, hlookup] at hexpanding
    cases hexpanding
  have hindex : h.rule.index < capacity :=
    (RuleBook.index_lt_capacity (body_resolve hbody)).trans_le hcapacity
  refine ⟨hcapacity, insert (h.rule.index, c.offset) keys, ?_, ?_, ?_⟩
  · exact Finset.insert_subset (mem_keysFrom hindex hc) hkeys
  · intro key hkey
    refine Guard.expands_enter.mpr ?_
    rcases Finset.mem_insert.mp hkey with rfl | hmem
    · exact .inl rfl
    · exact .inr (hexpands key hmem)
  · rw [Finset.card_insert_of_notMem hfresh]
    omega

/-- A use of a rule that is over has given back the room it took up. -/
theorem call {m : Nat} (hw : w.Room start capacity n) (hc : c.Over text)
    (hsure : w.guard.Sure text) (hcall : World.call m h c w = some (r, w')) :
    w'.Room start capacity n := by
  obtain ⟨keys, hkeys, hexpands, hroom⟩ := hw.exists_keys
  have hcapacity :=
    (call_keeps (lasting_capacity_le capacity) m hc ⟨hsure, hw.capacity_le⟩ hcall).1.2
  refine ⟨hcapacity, keys, hkeys, ?_, hroom⟩
  intro key hkey
  exact (expands_call hc hsure hcall key).mpr (hexpands key hkey)

end Room

end World

end Descent
