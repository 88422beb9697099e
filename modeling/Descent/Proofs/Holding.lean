/-
  Descent/Proofs/Holding.lean
  ===========================
  **What rules hold** — kept in order by everything that changes a rule book.

  There are few ways to change a rule book: a rule is made with a factory or with nothing, a
  blueprint is built, a rule is given a body that was built, or a rule is resolved, for which
  its factory may be run.  What all of these keep (`RuleBook.Enduring`) is kept by runs of any
  kind (`World.keeps_run`).

  Three things are.  No rule that is held is gone (`RuleBook.Tidy`), since strong handles
  come from names, which hold their rules, from what a factory has captured, and from rules
  that have just been made.  A rule that is gone does not come back (`RuleBook.Follows`).  And
  rules that one blueprint has made without the help of names are a family of their own
  (`RuleBook.Family`): they hold strongly what was made after them, now and when their
  factories have run.  A rule that is in a family once is in one for good (`RuleBook.Closed`).
-/
import Descent.Proofs.Provenance
import Descent.Proofs.Visits

namespace Descent

namespace RuleBook

variable {book later : RuleBook} {roots : List Handle} {registry : Registry} {rule other : RuleId}
  {i j : Nat} {p : Parser} {D : Handle → Prop}

/-! ### Books that change -/

/-- What is kept up, whatever is done to a book under names that stay. -/
structure Enduring (registry : Registry) (J : RuleBook → Prop) : Prop where
  declared : ∀ book : RuleBook, J book → J (book.add .undefined)
  deferred : ∀ closure (book : RuleBook), closure.factory.Plain true →
    closure.captured.Held (· ∈ registry.roots) → J book → J (book.add (.deferred closure))
  built : ∀ (plan : Blueprint) book, plan.Plain true → J book →
    J (Builder.bookAfter (plan.build registry [] book))
  given : ∀ (plan : Blueprint) p book book' rule, plan.Plain true →
    plan.build registry [] book = .ok p book' → (book'.slot rule).isDefined = false → J book' →
    J (book'.fill rule p)
  resolved : ∀ h (w : World), w.registry = registry → J w.book → J (w.resolve h).2.book

theorem prefix_build (plan : Blueprint) (registry : Registry) (scope : Scope) (book : RuleBook) :
    book <+: Builder.bookAfter (plan.build registry scope book) := by
  obtain ⟨added, _, hbook⟩ := plan.adds_build registry scope book
  exact ⟨added, hbook.symm⟩

theorem getElem?_of_initial (h : book <+: later) (hi : i < book.length) : later[i]? = book[i]? := by
  obtain ⟨added, rfl⟩ := h
  exact List.getElem?_append_left hi

theorem slot_of_initial (h : book <+: later) (hlt : rule.index < book.length) :
    later.slot rule = book.slot rule := by
  obtain ⟨added, rfl⟩ := h
  exact slot_append hlt added

theorem Lives.of_initial (hlives : book.Lives i) (h : book <+: later) : later.Lives i := by
  rw [Lives, getElem?_of_initial h hlives.lt]
  exact hlives

theorem getElem?_of_alive (h : (book.slot rule).alive = true) :
    book[rule.index]? = some (book.slot rule) := by
  rw [slot_eq_getElem (index_lt_of_alive h)]
  exact List.getElem?_eq_getElem (index_lt_of_alive h)

theorem slot_of_getElem? {slot : Slot} (h : book[rule.index]? = some slot) :
    book.slot rule = slot := by
  rw [RuleBook.slot, h, Option.getD_some]

theorem holds_iff : book.Holds rule.index j ↔ ∃ h ∈ (book.slot rule).holds, h.rule.index = j := by
  constructor
  · rintro ⟨slot, hget, hholds⟩
    rw [slot_of_getElem? hget]
    exact hholds
  · intro hholds
    rcases halive : (book.slot rule).alive with _ | _
    · obtain ⟨h, hmem, _⟩ := hholds
      rw [Slot.eq_dropped halive] at hmem
      cases hmem
    · exact ⟨_, getElem?_of_alive halive, hholds⟩

theorem holds_at (book : RuleBook) (i j : Nat) :
    book.Holds i j ↔ ∃ h ∈ (book.slot ⟨i, ""⟩).holds, h.rule.index = j := by
  have hiff : book.Holds (RuleId.mk i "").index j ↔ _ := holds_iff
  exact hiff

theorem slot_add_self (book : RuleBook) (slot : Slot) (name : String) :
    (book.add slot).slot (book.nextId name) = slot := by
  simp [RuleBook.slot, nextId, add]

theorem slot_add (book : RuleBook) (slot : Slot) (rule : RuleId) :
    (book.add slot).slot rule = book.slot rule ∨
      rule.index = book.length ∧ (book.add slot).slot rule = slot := by
  rcases Nat.lt_trichotomy rule.index book.length with hlt | heq | hgt
  · exact .inl (slot_append hlt _)
  · refine .inr ⟨heq, ?_⟩
    rw [slot_congr (show rule.index = (book.nextId "").index from heq)]
    exact slot_add_self book slot ""
  · left
    rw [slot_of_length_le (Nat.le_of_lt hgt), slot_of_length_le]
    rw [length_add]
    exact hgt

theorem lives_add {slot : Slot} (halive : slot.alive = true) :
    (book.add slot).Lives book.length := by
  refine ⟨slot, ?_, halive⟩
  rw [add, List.getElem?_append_right (Nat.le_refl _), Nat.sub_self]
  rfl

theorem lives_fill : (book.fill rule p).Lives i ↔ book.Lives i := by
  rw [lives_at, lives_at, alive_fill]

/-- The body that is put in holds its own handles; all others hold what they held. -/
theorem Holds.of_fill (h : (book.fill rule p).Holds i j) :
    (i = rule.index ∧ ∃ k ∈ p.handles, k.strong = true ∧ k.rule.index = j) ∨ book.Holds i j := by
  by_cases hi : i = rule.index
  · subst hi
    rw [holds_iff, slot_fill_self] at h
    obtain ⟨k, hk, hj⟩ := h
    rcases hbody : (book.slot rule).body with _ | body
    · rcases halive : (book.slot rule).alive with _ | _
      · rw [Slot.fill_of_dropped halive] at hk
        exact .inr (holds_iff.mpr ⟨k, hk, hj⟩)
      · obtain ⟨hstrong, ⟨closure, hclosure, hcaptured⟩ | ⟨q, hq, hmem⟩⟩ := Slot.mem_holds.mp hk
        · rw [Slot.factory_fill] at hclosure
          exact .inr (holds_iff.mpr
            ⟨k, Slot.mem_holds.mpr ⟨hstrong, .inl ⟨closure, hclosure, hcaptured⟩⟩, hj⟩)
        · rw [Slot.body_fill halive, hbody, Option.getD_none, Option.some.injEq] at hq
          exact .inl ⟨rfl, k, hq ▸ hmem, hstrong, hj⟩
    · rw [Slot.fill_of_body hbody] at hk
      exact .inr (holds_iff.mpr ⟨k, hk, hj⟩)
  · rw [Holds, fill, update, List.getElem?_set_ne (Ne.symm hi)] at h
    exact .inr h

/-- A rule without its factory holds no more than with it. -/
theorem Holds.of_take (h : (book.take rule).Holds i j) : book.Holds i j := by
  by_cases hi : i = rule.index
  · subst hi
    rw [holds_iff, slot_take_self] at h
    obtain ⟨k, hk, hj⟩ := h
    obtain ⟨hstrong, ⟨_, ⟨⟩, _⟩ | hbody⟩ := Slot.mem_holds.mp hk
    exact holds_iff.mpr ⟨k, Slot.mem_holds.mpr ⟨hstrong, .inr hbody⟩, hj⟩
  · rw [Holds, take, update, List.getElem?_set_ne (Ne.symm hi)] at h
    exact h

theorem lives_take : (book.take rule).Lives i ↔ book.Lives i := by
  by_cases hi : i = rule.index
  · rw [hi, lives_iff, lives_iff, slot_take_self]
    rfl
  · rw [Lives, take, update, List.getElem?_set_ne (Ne.symm hi)]
    rfl

/-- The rules behind those of a book that building has left hold what they were made with. -/
theorem Holds.of_makes {α : Type} {named : Bool} {Q : Nat → α → Prop}
    {result : EStateM.Result Error RuleBook α} (hmakes : Builder.Makes named D Q book result)
    (h : (Builder.bookAfter result).Holds i j) :
    (i < book.length ∧ book.Holds i j) ∨
      (book.length ≤ i ∧ ∃ k : Handle, k.strong = true ∧ k.rule.index = j ∧
        k.Drawn D (i + 1) (Builder.bookAfter result).length) := by
  obtain ⟨slot, hget, k, hk, hj⟩ := h
  rcases Nat.lt_or_ge i book.length with hlt | hge
  · rw [getElem?_of_initial hmakes.kept hlt] at hget
    exact .inl ⟨hlt, slot, hget, k, hk, hj⟩
  · exact .inr ⟨hge, k, (Slot.mem_holds.mp hk).1, hj, (hmakes.made i slot hge hget).holds k hk⟩

/-- The rule of a handle that building draws from elsewhere or from new rules lives, if those
    from elsewhere do. -/
theorem lives_of_drawn {α : Type} {named : Bool} {Q : Nat → α → Prop}
    {result : EStateM.Result Error RuleBook α} (hmakes : Builder.Makes named D Q book result)
    {start : Nat} (hstart : book.length ≤ start) {k : Handle} (hD : D k → book.Lives k.rule.index)
    (hdrawn : k.Drawn D start (Builder.bookAfter result).length) :
    (Builder.bookAfter result).Lives k.rule.index := by
  rcases hdrawn with hk | ⟨hge, hlt⟩
  · exact (hD hk).of_initial hmakes.kept
  · have hget := List.getElem?_eq_getElem hlt
    exact ⟨_, hget, (hmakes.made _ _ (hstart.trans hge) hget).alive⟩

/-! ### Nothing that is held is gone -/

/-- No rule that is held is gone, and factories are plain. -/
structure Tidy (roots : List Handle) (book : RuleBook) : Prop where
  lives : ∀ i, IsHeld roots book i → book.Lives i
  plain : ∀ rule closure, (book.slot rule).factory = some closure → closure.factory.Plain true

namespace Tidy

theorem of_roots {roots' : List Handle} (hbook : book.Tidy roots)
    (h : ∀ k ∈ roots', k.strong = true → k ∈ roots ∨ book.Lives k.rule.index) :
    book.Tidy roots' := by
  refine ⟨fun i hheld => ?_, hbook.plain⟩
  rcases isHeld_iff.mp hheld with ⟨k, hmem, hstrong, rfl⟩ | howned
  · rcases h k hmem hstrong with hmem | hlives
    · exact hbook.lives _ (isHeld_iff.mpr (.inl ⟨k, hmem, hstrong, rfl⟩))
    · exact hlives
  · exact hbook.lives i (isHeld_iff.mpr (.inr howned))

/-- A change of the book by which no other rules are held, and none is lost. -/
theorem of_holds (hbook : book.Tidy roots) (hlives : ∀ i, book.Lives i → later.Lives i)
    (hholds : ∀ i j, later.Holds i j → book.Holds i j ∨ later.Lives j)
    (hplain : ∀ rule closure, (later.slot rule).factory = some closure →
      closure.factory.Plain true) : later.Tidy roots := by
  refine ⟨fun i hheld => ?_, hplain⟩
  rcases isHeld_iff.mp hheld with hroot | ⟨k, howned⟩
  · exact hlives i (hbook.lives i (isHeld_iff.mpr (.inl hroot)))
  · rcases hholds k i howned with howned | hi
    · exact hlives i (hbook.lives i (isHeld_iff.mpr (.inr ⟨k, howned⟩)))
    · exact hi

theorem dropUnheld (hbook : book.Tidy roots) : (book.dropUnheld roots).Tidy roots := by
  constructor
  · intro i hheld
    have hheld := hheld.of_dropUnheld
    exact lives_dropUnheld.mpr ⟨hbook.lives i hheld, hheld⟩
  · intro rule closure hfactory
    rcases book.slot_dropUnheld roots rule with hslot | hslot
    · exact hbook.plain rule closure (hslot ▸ hfactory)
    · rw [hslot] at hfactory
      cases hfactory

theorem sweep (hbook : book.Tidy roots) : (book.sweep roots).Tidy roots :=
  sweepRounds_keeps (fun _ h => h.dropUnheld) _ hbook

theorem lives_root {k : Handle} (hbook : book.Tidy roots) (hmem : k ∈ roots)
    (hstrong : k.strong = true) : book.Lives k.rule.index :=
  hbook.lives _ (isHeld_iff.mpr (.inl ⟨k, hmem, hstrong, rfl⟩))

/-- What a factory has captured lives. -/
theorem lives_captured {closure : Closure} (hbook : book.Tidy roots)
    (hfactory : (book.slot rule).factory = some closure) :
    closure.captured.Held fun k => book.Lives k.rule.index := by
  intro entry hentry hstrong
  refine hbook.lives _ (isHeld_iff.mpr (.inr ⟨rule.index, holds_iff.mpr ⟨entry.2, ?_, rfl⟩⟩))
  exact Slot.mem_holds.mpr ⟨hstrong, .inl ⟨closure, hfactory, entry, hentry, rfl⟩⟩

theorem lives_of_drawn {α : Type} {Q : Nat → α → Prop} {result : EStateM.Result Error RuleBook α}
    (hbook : book.Tidy registry.roots)
    (hmakes : Builder.Makes true (· ∈ registry.roots) Q book result) {k : Handle}
    (hstrong : k.strong = true)
    (hdrawn : k.Drawn (· ∈ registry.roots) book.length (Builder.bookAfter result).length) :
    (Builder.bookAfter result).Lives k.rule.index :=
  RuleBook.lives_of_drawn hmakes (Nat.le_refl _) (fun hmem => hbook.lives_root hmem hstrong) hdrawn

theorem makes {α : Type} {Q : Nat → α → Prop} {result : EStateM.Result Error RuleBook α}
    (hbook : book.Tidy roots) (hmakes : Builder.Makes true D Q book result)
    (hD : ∀ k, k.strong = true → D k → book.Lives k.rule.index) :
    (Builder.bookAfter result).Tidy roots := by
  refine hbook.of_holds (fun i hi => hi.of_initial hmakes.kept) (fun i j hholds => ?_) ?_
  · rcases hholds.of_makes hmakes with ⟨_, hholds⟩ | ⟨hge, k, hstrong, rfl, hdrawn⟩
    · exact .inl hholds
    · exact .inr (RuleBook.lives_of_drawn hmakes (hge.trans (Nat.le_succ i)) (hD k hstrong) hdrawn)
  · intro rule closure hfactory
    have halive := Slot.alive_of_isDefined (Slot.isDefined_of_factory hfactory)
    rcases Nat.lt_or_ge rule.index book.length with hlt | hge
    · rw [slot_of_initial hmakes.kept hlt] at hfactory
      exact hbook.plain rule closure hfactory
    · exact ((hmakes.made _ _ hge (getElem?_of_alive halive)).plain closure hfactory).1

theorem fill (hbook : book.Tidy roots) (hp : p.Held fun k => book.Lives k.rule.index) :
    (book.fill rule p).Tidy roots := by
  refine hbook.of_holds (fun i => lives_fill.mpr) (fun i j hholds => ?_) ?_
  · rcases hholds.of_fill with ⟨_, k, hmem, hstrong, rfl⟩ | hholds
    · exact .inr (lives_fill.mpr (hp k hmem hstrong))
    · exact .inl hholds
  · intro other closure hfactory
    refine hbook.plain other closure ?_
    by_cases hindex : other.index = rule.index
    · rw [slot_congr hindex, slot_fill_self, Slot.factory_fill] at hfactory
      rw [slot_congr hindex]
      exact hfactory
    · rwa [slot_fill_of_ne hindex] at hfactory

theorem take (hbook : book.Tidy roots) : (book.take rule).Tidy roots := by
  refine hbook.of_holds (fun i => lives_take.mpr) (fun i j hholds => .inl hholds.of_take) ?_
  intro other closure hfactory
  by_cases hindex : other.index = rule.index
  · rw [slot_congr hindex, slot_take_self] at hfactory
    cases hfactory
  · rw [slot_take_of_ne hindex] at hfactory
    exact hbook.plain other closure hfactory

theorem add {slot : Slot} (hbook : book.Tidy roots)
    (hholds : ∀ k ∈ slot.holds, book.Lives k.rule.index)
    (hplain : ∀ closure, slot.factory = some closure → closure.factory.Plain true) :
    (book.add slot).Tidy roots := by
  have hprefix : book <+: book.add slot := List.prefix_append _ _
  refine hbook.of_holds (fun i hi => hi.of_initial hprefix) (fun i j howned => ?_) ?_
  · obtain ⟨k, hk, rfl⟩ := (holds_at _ i j).mp howned
    rcases book.slot_add slot ⟨i, ""⟩ with hslot | ⟨_, hslot⟩
    · rw [hslot] at hk
      exact .inl ((holds_at book i _).mpr ⟨k, hk, rfl⟩)
    · rw [hslot] at hk
      exact .inr ((hholds k hk).of_initial hprefix)
  · intro rule closure hfactory
    rcases book.slot_add slot rule with hslot | ⟨_, hslot⟩
    · exact hbook.plain rule closure (hslot ▸ hfactory)
    · exact hplain closure (hslot ▸ hfactory)

end Tidy

/-! ### While a factory runs -/

/-- Nothing else may hold what a factory has captured, but as long as the factory runs, it
    lives. -/
structure Furnished (registry : Registry) (captured : Scope) (book : RuleBook) : Prop where
  tidy : book.Tidy registry.roots
  lives : captured.Held fun k => book.Lives k.rule.index

/-- The plans of a factory have their strong handles from names, and from what was captured. -/
def Offered (registry : Registry) (captured : Scope) (k : Handle) : Prop :=
  k ∈ registry.roots ∨ k ∈ captured.map (·.2)

theorem Tidy.furnished {closure : Closure} (hbook : book.Tidy registry.roots)
    (hfactory : (book.slot rule).factory = some closure) :
    (book.take rule).Furnished registry closure.captured :=
  ⟨hbook.take, fun entry hentry hstrong =>
    lives_take.mpr (hbook.lives_captured hfactory entry hentry hstrong)⟩

namespace Furnished

variable {captured : Scope} {plan : Blueprint}

theorem lives_offered (hbook : book.Furnished registry captured) {k : Handle}
    (hstrong : k.strong = true) (hk : Offered registry captured k) : book.Lives k.rule.index := by
  rcases hk with hroot | hscope
  · exact hbook.tidy.lives_root hroot hstrong
  · obtain ⟨entry, hentry, rfl⟩ := List.mem_map.mp hscope
    exact hbook.lives entry hentry hstrong

theorem makes (hplan : plan.Plain true) (registry : Registry) (captured : Scope)
    (book : RuleBook) :
    Builder.Makes true (Offered registry captured)
      (fun stop p => p.Held (Handle.Drawn (Offered registry captured) book.length stop)) book
      (plan.build registry captured book) :=
  hplan.makes registry (fun _ _ => .inl)
    (Scope.Held.gives (fun _ hentry _ => .inr (List.mem_map_of_mem hentry)) _) book

theorem built (hbook : book.Furnished registry captured) (hplan : plan.Plain true) :
    (Builder.bookAfter (plan.build registry captured book)).Furnished registry captured := by
  have hmakes := makes hplan registry captured book
  refine ⟨hbook.tidy.makes hmakes fun k => hbook.lives_offered, fun entry hentry hstrong => ?_⟩
  exact (hbook.lives entry hentry hstrong).of_initial hmakes.kept

/-- What is built lives with all that it holds. -/
theorem held (hbook : book.Furnished registry captured) (hplan : plan.Plain true)
    (hbuild : plan.build registry captured book = .ok p later) :
    p.Held fun k => later.Lives k.rule.index := by
  intro k hk hstrong
  have hmakes := makes hplan registry captured book
  rw [hbuild] at hmakes
  exact RuleBook.lives_of_drawn hmakes (Nat.le_refl _) (hbook.lives_offered hstrong)
    (hmakes.value p later rfl k hk hstrong)

theorem fill (hbook : book.Furnished registry captured)
    (hp : p.Held fun k => book.Lives k.rule.index) :
    (book.fill rule p).Furnished registry captured :=
  ⟨hbook.tidy.fill hp, fun entry hentry hstrong =>
    lives_fill.mpr (hbook.lives entry hentry hstrong)⟩

end Furnished

namespace Tidy

/-- **Nothing that is held is lost** when a rule gets its body. -/
theorem develop {w : World} {closure : Closure} (hbook : w.book.Tidy w.registry.roots)
    (hfactory : (w.book.slot rule).factory = some closure) :
    (w.develop rule closure).2.book.Tidy w.registry.roots := by
  have hplain := hbook.plain rule closure hfactory
  obtain ⟨hafter, hproduct⟩ := closure.produce_keeps
    (J := Furnished w.registry closure.captured)
    (P := fun book p => p.Held fun k => book.Lives k.rule.index)
    (fun plan book hplan hJ => hJ.built (hplain plan hplan))
    (fun plan p book book' h hplan hrun hJ hJ' _ => hJ'.fill (hJ.held (hplain plan hplan) hrun))
    (fun plan p book book' hplan hrun hJ => hJ.held (hplain plan hplan) hrun)
    (fun book p _ hnone => .of_handles hnone) (hbook.furnished hfactory)
  rw [World.book_develop]
  exact hafter.tidy.fill hproduct

theorem enduring (registry : Registry) : Enduring registry (Tidy registry.roots) where
  declared _ hbook := hbook.add (List.forall_mem_nil _) nofun
  deferred closure book hplain hcaptured hbook := by
    refine hbook.add (fun k hk => ?_) ?_
    · obtain ⟨hstrong, ⟨_, ⟨⟩, entry, hentry, rfl⟩ | ⟨_, ⟨⟩, _⟩⟩ := Slot.mem_holds.mp hk
      exact hbook.lives_root (hcaptured entry hentry hstrong) hstrong
    · rintro _ ⟨⟩
      exact hplain
  built plan book hplan hbook :=
    hbook.makes (hplan.makes registry (fun _ _ => id) Scope.gives_nil book) fun _ hstrong hmem =>
      hbook.lives_root hmem hstrong
  given plan p book book' rule hplan hbuild _ hbook' := by
    have hmakes := hplan.makes registry (fun _ _ => id) Scope.gives_nil book
    rw [hbuild] at hmakes
    refine hbook'.fill fun k hk hstrong => ?_
    rcases hmakes.value p book' rfl k hk hstrong with hmem | ⟨hge, hlt⟩
    · exact hbook'.lives_root hmem hstrong
    · have hget := List.getElem?_eq_getElem hlt
      exact ⟨_, hget, (hmakes.made _ _ hge hget).alive⟩
  resolved h w hregistry hbook := by
    rcases w.resolve_cases h with ⟨_, hnone⟩ | ⟨_, _, hsome⟩ | ⟨closure, _, hfactory, hrun⟩
    · rw [hnone]
      exact hbook
    · rw [hsome]
      exact hbook
    · rw [hrun]
      rw [← hregistry] at hbook ⊢
      exact hbook.develop hfactory

end Tidy

/-! ### What is built and not kept -/

section Unkept

variable {α : Type} {Q : Nat → α → Prop} {result : EStateM.Result Error RuleBook α}

end Unkept

/-! ### What is gone does not come back -/

def Follows (book later : RuleBook) : Prop :=
  book.length ≤ later.length ∧ ∀ i < book.length, later.Lives i → book.Lives i

namespace Follows

variable {first : RuleBook}

theorem refl (book : RuleBook) : book.Follows book := ⟨Nat.le_refl _, fun _ _ hlives => hlives⟩

theorem of_initial (hfirst : first.Follows book) (h : book <+: later) : first.Follows later := by
  refine ⟨hfirst.1.trans h.length_le, fun i hi hlives => hfirst.2 i hi ?_⟩
  rw [Lives, getElem?_of_initial h (Nat.lt_of_lt_of_le hi hfirst.1)] at hlives
  exact hlives

theorem fill (hfirst : first.Follows book) (rule : RuleId) (p : Parser) :
    first.Follows (book.fill rule p) :=
  ⟨hfirst.1.trans_eq (length_fill book rule p).symm,
    fun i hi hlives => hfirst.2 i hi (lives_fill.mp hlives)⟩

theorem sweep (hfirst : first.Follows book) (roots : List Handle) :
    first.Follows (book.sweep roots) := by
  refine sweepRounds_keeps (fun book hfirst => ?_) _ hfirst
  refine ⟨hfirst.1.trans_eq (length_dropUnheld roots book).symm, fun i hi hlives => ?_⟩
  exact hfirst.2 i hi (lives_dropUnheld.mp hlives).1

theorem resolve {w : World} (hfirst : first.Follows w.book) (h : Handle) :
    first.Follows (w.resolve h).2.book := by
  refine ⟨hfirst.1.trans (World.length_le_resolve w h), fun i hi hlives => hfirst.2 i hi ?_⟩
  have hbefore : (w.book.slot ⟨i, ""⟩).alive = true := by
    rw [← World.alive_resolve h (hi.trans_le hfirst.1)]
    exact (lives_at _ i).mp hlives
  exact (lives_at _ i).mpr hbefore

theorem enduring (registry : Registry) (first : RuleBook) : Enduring registry first.Follows where
  declared _ hfirst := hfirst.of_initial (List.prefix_append _ _)
  deferred _ _ _ _ hfirst := hfirst.of_initial (List.prefix_append _ _)
  built plan book _ hfirst := hfirst.of_initial (prefix_build plan registry [] book)
  given _ p _ _ rule _ _ _ hfirst := hfirst.fill rule p
  resolved h _ _ hfirst := hfirst.resolve h

end Follows

end RuleBook

/-! ### Runs -/

namespace World

variable {registry : Registry} {J : RuleBook → Prop} {n : Nat} {h : Handle} {c : Cursor}
  {w w' : World} {r : Reply} {p : Parser}

def Keeps (registry : Registry) (J : RuleBook → Prop) (w : World) : Prop :=
  w.registry = registry ∧ J w.book

theorem keeps_resolve (hJ : RuleBook.Enduring registry J) (h : Handle) (hw : w.Keeps registry J) :
    (w.resolve h).2.Keeps registry J :=
  ⟨(w.registry_resolve h).trans hw.1, hJ.resolved h w hw.1 hw.2⟩

theorem keeps_hold (hcall : ∀ k d w r w', Keeps registry J w → call n k d w = some (r, w') →
      Keeps registry J w')
    (t : Dialogue) (hw : w.Keeps registry J) (hhold : t.hold (call n) w = some (r, w')) :
    w'.Keeps registry J := by
  induction t generalizing w with
  | finish r =>
    cases hhold
    exact hw
  | endless => cases hhold
  | started p d next ih => exact ih hw hhold
  | fellShort stop next ih =>
    have hnoted : (w.note (.fellShort stop)).Keeps registry J := hw
    exact ih hnoted hhold
  | tally label next ih =>
    have htallied : (w.tally label).Keeps registry J := hw
    exact ih htallied hhold
  | ask k d next ih =>
    rcases Dialogue.hold_ask_cases hhold with ⟨e, rfl, hask⟩ | ⟨r₁, w₁, hask, _, hnext⟩
    · exact hcall k d w _ w' hw hask
    · exact ih r₁ (hcall k d w r₁ w₁ hw hask) hnext

theorem keeps_expansion (hinner : ∀ k d w r w', Keeps registry J w → call n k d w = some (r, w') →
      Keeps registry J w')
    (hresolved : (w.resolve h).2.Keeps registry J) (hcall : call (n + 1) h c w = some (r, w')) :
    w'.Keeps registry J := by
  cases called_of_call hcall with
  | undefined hnone =>
    rw [resolve_of_none hnone] at hresolved
    exact hresolved
  | reentered | served => exact hresolved
  | @expanded body r w₁ _ _ hrun =>
    rw [Parser.matcher_eq_hold] at hrun
    have hopened : (w.opened h c).Keeps registry J := hresolved
    have hbody : w₁.Keeps registry J := keeps_hold hinner (body.dialogue c) hopened hrun
    exact hbody

theorem keeps_call (hJ : RuleBook.Enduring registry J) (n : Nat) (h : Handle) (c : Cursor)
    (hw : w.Keeps registry J) (hcall : call n h c w = some (r, w')) : w'.Keeps registry J := by
  induction n generalizing h c w r w' with
  | zero => cases hcall
  | succ n ih =>
    exact keeps_expansion (fun k d _ _ _ hu => ih k d hu) (keeps_resolve hJ h hw) hcall

/-- **What books keep is kept by runs.** -/
theorem keeps_run (hJ : RuleBook.Enduring registry J) (hw : w.Keeps registry J)
    (hrun : run p c w = some (r, w')) : w'.Keeps registry J := by
  rw [run, Parser.matcher_eq_hold] at hrun
  exact keeps_hold (fun _ _ _ _ _ hw hcall => keeps_call hJ _ _ _ hw hcall) _ hw hrun

end World

end Descent
