/-
  Descent/Proofs/Slots.lean
  =========================
  **Slots** — what the cells of a rule hold behind each change of a book.

  A rule that is gone owns nothing, so a weak handle leads to the same cells as a strong
  one wherever there is something in them (`RuleBook.isDefined_eq`).  A body that is
  there is never replaced (`Slot.fill_of_body`).
-/
import Descent.RuleBook

namespace Descent

namespace Slot

variable {slot first second third : Slot} {p body : Parser}

@[ext] theorem ext (hfactory : first.factory = second.factory) (hbody : first.body = second.body)
    (halive : first.alive = second.alive) : first = second := by
  cases first
  cases second
  cases hfactory
  cases hbody
  cases halive
  rfl

theorem isDefined_eq_false_iff :
    slot.isDefined = false ↔ slot.factory = none ∧ slot.body = none := by
  rw [isDefined, Bool.or_eq_false_iff, Option.isSome_eq_false_iff, Option.isSome_eq_false_iff,
    Option.isNone_iff_eq_none, Option.isNone_iff_eq_none, And.comm]

theorem isDefined_of_body (h : slot.body = some body) : slot.isDefined = true := by
  rw [isDefined, h]
  rfl

theorem isDefined_of_factory {closure : Closure} (h : slot.factory = some closure) :
    slot.isDefined = true := by
  rw [isDefined, h, Bool.or_comm]
  rfl

/-- A rule that owns something is not gone. -/
theorem alive_of_isDefined (h : slot.isDefined = true) : slot.alive = true := by
  rcases halive : slot.alive with _ | _
  · rw [isDefined_eq_false_iff.mpr (slot.freed halive)] at h
    cases h
  · rfl

/-- A rule that is gone is like one that was never made. -/
theorem eq_dropped (h : slot.alive = false) : slot = dropped :=
  ext (slot.freed h).1 (slot.freed h).2 h

theorem fill_of_alive (h : slot.alive = true) :
    slot.fill p = ⟨slot.factory, some (slot.body.getD p), true, nofun⟩ := by
  rw [fill, if_pos h]

theorem body_fill (h : slot.alive = true) : (slot.fill p).body = some (slot.body.getD p) := by
  rw [fill_of_alive h]

theorem fill_of_dropped (h : slot.alive = false) : slot.fill p = slot := by
  rw [fill, if_neg (by simp [h])]

@[simp] theorem factory_fill (slot : Slot) (p : Parser) :
    (slot.fill p).factory = slot.factory := by
  unfold fill
  split <;> rfl

@[simp] theorem alive_fill (slot : Slot) (p : Parser) : (slot.fill p).alive = slot.alive := by
  rcases h : slot.alive with _ | _
  · rw [fill_of_dropped h, h]
  · rw [fill_of_alive h]

/-- **A body that is there is not replaced.** -/
theorem fill_of_body (h : slot.body = some body) : slot.fill p = slot := by
  rcases halive : slot.alive with _ | _
  · exact fill_of_dropped halive
  · rw [fill_of_alive halive]
    exact ext rfl (by rw [h, Option.getD_some]) halive.symm

/-- A rule with neither a body nor a factory is given a body, or it stays as it is. -/
def Filled (slot later : Slot) : Prop :=
  later = slot ∨ slot.isDefined = false ∧ ∃ p, later = slot.fill p

namespace Filled

theorem refl (slot : Slot) : slot.Filled slot := .inl rfl

theorem trans (h : first.Filled second) (h' : second.Filled third) : first.Filled third := by
  rcases h with rfl | ⟨hfirst, p, rfl⟩
  · exact h'
  · rcases h' with rfl | ⟨hsecond, q, rfl⟩
    · exact .inr ⟨hfirst, p, rfl⟩
    · -- A second body would be put beside the first one, unless the rule is gone.
      refine .inr ⟨hfirst, p, ?_⟩
      rcases halive : first.alive with _ | _
      · rw [fill_of_dropped halive, fill_of_dropped halive]
      · exact fill_of_body (body_fill halive)

theorem body_eq (h : first.Filled second) (hbody : first.body = some body) :
    second.body = some body := by
  rcases h with rfl | ⟨hfirst, _⟩
  · exact hbody
  · rw [(isDefined_eq_false_iff.mp hfirst).2] at hbody
    cases hbody

theorem isDefined_eq_true (h : first.Filled second) (hfirst : first.isDefined = true) :
    second.isDefined = true := by
  rcases h with rfl | ⟨hnone, _⟩
  · exact hfirst
  · rw [hnone] at hfirst
    cases hfirst

theorem factory_eq (h : first.Filled second) : second.factory = first.factory := by
  rcases h with rfl | ⟨_, p, rfl⟩
  · rfl
  · exact factory_fill first p

theorem alive_eq (h : first.Filled second) : second.alive = first.alive := by
  rcases h with rfl | ⟨_, p, rfl⟩
  · rfl
  · exact alive_fill first p

end Filled

end Slot

/-! ### The slots of a book -/

namespace RuleBook

variable {book : RuleBook} {rule other : RuleId} {h : Handle} {slot : Slot}

/-- The name of a rule says nothing about what became of it. -/
theorem slot_congr (h : rule.index = other.index) (book : RuleBook) :
    book.slot rule = book.slot other := by
  rw [RuleBook.slot, RuleBook.slot, h]

theorem body_congr (h : rule.index = other.index) (book : RuleBook) :
    (book.slot rule).body = (book.slot other).body := congrArg Slot.body (slot_congr h book)

theorem slot_of_length_le (h : book.length ≤ rule.index) : book.slot rule = .dropped := by
  rw [RuleBook.slot, List.getElem?_eq_none h, Option.getD_none]

theorem slot_eq_getElem (h : rule.index < book.length) : book.slot rule = book[rule.index] := by
  rw [RuleBook.slot, List.getElem?_eq_getElem h, Option.getD_some]

theorem index_lt_of_alive (h : (book.slot rule).alive = true) : rule.index < book.length := by
  rcases Nat.lt_or_ge rule.index book.length with hlt | hge
  · exact hlt
  · rw [slot_of_length_le hge] at h
    cases h

theorem index_lt_of_isDefined (h : (book.slot rule).isDefined = true) :
    rule.index < book.length := index_lt_of_alive (Slot.alive_of_isDefined h)

theorem index_lt_of_body {body : Parser} (h : (book.slot rule).body = some body) :
    rule.index < book.length := index_lt_of_isDefined (Slot.isDefined_of_body h)

theorem slot_append (h : rule.index < book.length) (added : RuleBook) :
    RuleBook.slot (book ++ added) rule = book.slot rule := by
  rw [RuleBook.slot, RuleBook.slot, List.getElem?_append_left h]

theorem slot_update_self (h : rule.index < book.length) (slot : Slot) :
    (book.update rule slot).slot rule = slot := by
  simp [RuleBook.slot, update, h]

theorem slot_update_of_ne (h : other.index ≠ rule.index) (slot : Slot) :
    (book.update rule slot).slot other = book.slot other := by
  simp [RuleBook.slot, update, List.getElem?_set_ne (Ne.symm h)]

theorem update_slot (book : RuleBook) (rule : RuleId) :
    book.update rule (book.slot rule) = book := by
  rcases Nat.lt_or_ge rule.index book.length with hlt | hge
  · rw [update, slot_eq_getElem hlt, List.set_getElem_self]
  · rw [update, List.set_eq_of_length_le hge]

@[simp] theorem length_update (book : RuleBook) (rule : RuleId) (slot : Slot) :
    (book.update rule slot).length = book.length := List.length_set

theorem slot_take_self (book : RuleBook) (rule : RuleId) :
    (book.take rule).slot rule = (book.slot rule).take := by
  rcases Nat.lt_or_ge rule.index book.length with hlt | hge
  · exact slot_update_self hlt _
  · rw [slot_of_length_le hge, slot_of_length_le]
    · rfl
    · rw [RuleBook.take, length_update]
      exact hge

theorem slot_take_of_ne (h : other.index ≠ rule.index) :
    (book.take rule).slot other = book.slot other := slot_update_of_ne h _

theorem slot_fill_self (book : RuleBook) (rule : RuleId) (p : Parser) :
    (book.fill rule p).slot rule = (book.slot rule).fill p := by
  rcases Nat.lt_or_ge rule.index book.length with hlt | hge
  · exact slot_update_self hlt _
  · rw [slot_of_length_le hge, slot_of_length_le]
    · rfl
    · rw [fill, length_update]
      exact hge

theorem slot_fill_of_ne (h : other.index ≠ rule.index) (p : Parser) :
    (book.fill rule p).slot other = book.slot other := slot_update_of_ne h _

@[simp] theorem length_take (book : RuleBook) (rule : RuleId) :
    (book.take rule).length = book.length := length_update book rule _

@[simp] theorem length_fill (book : RuleBook) (rule : RuleId) (p : Parser) :
    (book.fill rule p).length = book.length := length_update book rule _

@[simp] theorem alive_fill (book : RuleBook) (filled : RuleId) (p : Parser) (rule : RuleId) :
    ((book.fill filled p).slot rule).alive = (book.slot rule).alive := by
  by_cases hrule : rule.index = filled.index
  · rw [slot_congr hrule, slot_congr hrule, slot_fill_self, Slot.alive_fill]
  · rw [slot_fill_of_ne hrule]

/-- A rule that is gone takes no body. -/
theorem fill_of_not_alive (h : (book.slot rule).alive = false) (p : Parser) :
    book.fill rule p = book := by
  rw [fill, Slot.fill_of_dropped h, update_slot]

/-- A rule that has a body takes no other. -/
theorem fill_of_body {body : Parser} (h : (book.slot rule).body = some body) (p : Parser) :
    book.fill rule p = book := by
  rw [fill, Slot.fill_of_body h, update_slot]

/-! ### What handles lead to -/

theorem slot?_of_alive (halive : (book.slot h.rule).alive = true) :
    book.slot? h = some (book.slot h.rule) := by
  rw [slot?, halive, Bool.or_true]
  rfl

/-- Where a handle leads to nothing, there is nothing. -/
theorem slot_of_slot?_eq_none (hnone : book.slot? h = none) : book.slot h.rule = .dropped := by
  rcases halive : (book.slot h.rule).alive with _ | _
  · exact Slot.eq_dropped halive
  · rw [slot?_of_alive halive] at hnone
    cases hnone

theorem eq_of_slot?_eq_some (hsome : book.slot? h = some slot) : slot = book.slot h.rule := by
  unfold slot? at hsome
  split at hsome
  · exact (Option.some.inj hsome).symm
  · cases hsome

/-- **Every handle of a rule tells the same of it.** -/
theorem isDefined_eq (book : RuleBook) (h : Handle) :
    book.isDefined h = (book.slot h.rule).isDefined := by
  unfold isDefined
  rcases hslot : book.slot? h with _ | slot
  · rw [slot_of_slot?_eq_none hslot]
    rfl
  · rw [eq_of_slot?_eq_some hslot]
    rfl

/-! ### Definitions -/

/-- A definition is taken where there is neither a factory nor a body. -/
theorem define_of_not_isDefined (hnone : (book.slot h.rule).isDefined = false) (p : Parser) :
    book.define h p = .ok (book.fill h.rule p) := by
  unfold define
  rcases hslot : book.slot? h with _ | slot
  · rw [fill_of_not_alive (by rw [slot_of_slot?_eq_none hslot]; rfl)]
  · obtain ⟨hfactory, hbody⟩ := Slot.isDefined_eq_false_iff.mp hnone
    rw [← eq_of_slot?_eq_some hslot] at hfactory hbody
    simp only [hfactory, hbody, Option.isSome_none, Bool.false_eq_true, if_false]

/-- A definition is refused where there is a factory or a body. -/
theorem define_of_isDefined (hsome : (book.slot h.rule).isDefined = true) (p : Parser) :
    book.define h p = .error (.ruleRedefined h.rule) := by
  unfold define
  rw [slot?_of_alive (Slot.alive_of_isDefined hsome)]
  simp only
  split
  · rfl
  · rename_i hfactory
    rw [if_pos]
    rw [Slot.isDefined, Bool.or_eq_true] at hsome
    exact hsome.resolve_right hfactory

/-! ### Sweeping -/

theorem slot_dropUnheld (book : RuleBook) (roots : List Handle) (rule : RuleId) :
    (book.dropUnheld roots).slot rule = book.slot rule ∨
      (book.dropUnheld roots).slot rule = .dropped := by
  simp only [RuleBook.slot, dropUnheld, List.getElem?_mapIdx]
  rcases book[rule.index]? with _ | slot
  · exact .inr rfl
  · simp only [Option.map_some, Option.getD_some]
    split
    · exact .inl rfl
    · exact .inr rfl

/-- **Sweeping keeps a rule as it is, or drops it.** -/
theorem slot_sweepRounds (roots : List Handle) (n : Nat) (book : RuleBook) (rule : RuleId) :
    (sweepRounds roots n book).slot rule = book.slot rule ∨
      (sweepRounds roots n book).slot rule = .dropped := by
  induction n generalizing book with
  | zero => exact .inl rfl
  | succ n ih =>
    rcases ih (book.dropUnheld roots) with hkept | hdropped
    · rcases book.slot_dropUnheld roots rule with hkept' | hdropped
      · exact .inl (hkept.trans hkept')
      · exact .inr (hkept.trans hdropped)
    · exact .inr hdropped

end RuleBook

end Descent
