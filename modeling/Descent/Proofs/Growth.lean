/-
  Descent/Proofs/Growth.lean
  ==========================
  **Rule books grow** — what building and resolving do to the rules that are there.

  Building a blueprint adds rules behind those of the book and changes none of them
  (`Blueprint.adds_build`).  A factory can also define rules, but only such as have
  neither a body nor a factory (`RuleBook.Develops`).  Resolving a rule runs at most its
  own factory; a rule that has a body keeps it (`World.grows_resolve`).  The rules to come
  were counted from the start, so the capacity of a book never goes up
  (`World.capacity_resolve_le`), and every rule that ever has a body has its place
  below the capacity (`RuleBook.index_lt_capacity`).  The same goes for the rules that
  have a body or will have one (`RuleBook.bodyCount`).
-/
import Descent.Proofs.Slots
import Descent.World

namespace Descent

/-! ### Building adds rules -/

theorem Slot.ruleCount_undefined : Slot.undefined.ruleCount = 1 := rfl

theorem Slot.ruleCount_defined (body : Parser) : (Slot.defined body).ruleCount = 1 := rfl

namespace RuleBook

/-- The rule that was made last but for some others gets its body. -/
theorem fill_next (book added : RuleBook) (name : String) (p : Parser) :
    RuleBook.fill (book ++ ([.undefined] ++ added)) (book.nextId name) p =
      book ++ ([.defined p] ++ added) := by
  have hslot : RuleBook.slot (book ++ ([.undefined] ++ added)) (book.nextId name) =
      .undefined := by
    simp [RuleBook.slot, nextId]
  rw [fill, hslot]
  simp only [update, nextId, List.singleton_append, List.set_append_right _ _ (Nat.le_refl _),
    Nat.sub_self, List.set_cons_zero]
  rfl

theorem capacity_append (book added : RuleBook) :
    RuleBook.capacity (book ++ added) = book.capacity + added.capacity := by
  induction book with
  | nil => exact (Nat.zero_add _).symm
  | cons slot book ih =>
    simp only [capacity, List.cons_append, List.foldr_cons] at ih ⊢
    rw [ih, Nat.add_assoc]

theorem capacity_singleton (slot : Slot) : RuleBook.capacity [slot] = slot.ruleCount :=
  Nat.add_zero _

theorem length_le_capacity (book : RuleBook) : book.length ≤ book.capacity := by
  induction book with
  | nil => exact Nat.le_refl 0
  | cons slot book ih =>
    have hone : 1 ≤ slot.ruleCount := Nat.le_add_right 1 _
    have hsum : capacity (slot :: book) = slot.ruleCount + capacity book := rfl
    rw [List.length_cons, hsum]
    omega

end RuleBook

namespace Builder

variable {α β : Type}

def bookAfter : EStateM.Result Error RuleBook α → RuleBook
  | .ok _ book | .error _ book => book

/-- The step only adds rules, and those count for at most `n`. -/
def Adds (n : Nat) (step : Builder α) : Prop :=
  ∀ book, ∃ added : RuleBook, added.capacity ≤ n ∧ bookAfter (step book) = book ++ added

theorem Adds.pure (a : α) : Adds 0 (Pure.pure a : Builder α) :=
  fun book => ⟨[], Nat.le_refl 0, (List.append_nil book).symm⟩

theorem Adds.throw (e : Error) : Adds 0 (MonadExcept.throw e : Builder α) :=
  fun book => ⟨[], Nat.le_refl 0, (List.append_nil book).symm⟩

theorem Adds.bind {n m : Nat} {step : Builder α} {next : α → Builder β} (hstep : Adds n step)
    (hnext : ∀ a, Adds m (next a)) : Adds (n + m) (step >>= next) := by
  intro book
  obtain ⟨added, hsize, hbook⟩ := hstep book
  rcases hrun : step book with ⟨a, book'⟩ | ⟨e, book'⟩
  · rw [hrun, bookAfter] at hbook
    obtain ⟨more, hmore, hafter⟩ := hnext a book'
    refine ⟨added ++ more, ?_, ?_⟩
    · rw [RuleBook.capacity_append]
      omega
    · have hbind : (step >>= next) book = next a book' := by
        simp only [Bind.bind, EStateM.bind, hrun]
      rw [hbind, hafter, hbook, List.append_assoc]
  · rw [hrun, bookAfter] at hbook
    refine ⟨added, by omega, ?_⟩
    have hbind : (step >>= next) book = .error e book' := by
      simp only [Bind.bind, EStateM.bind, hrun]
    rw [hbind, bookAfter, hbook]

theorem Adds.andThen {n : Nat} {step : Builder α} {value : α → β} (hstep : Adds n step) :
    Adds n (step >>= fun a => Pure.pure (value a)) :=
  hstep.bind fun a => Adds.pure (value a)

theorem Adds.find (kept : List (String × α)) (name : String) : Adds 0 (find kept name) := by
  unfold Builder.find
  split
  · exact .pure _
  · exact .throw _

theorem Adds.ofExcept (result : Except Error α) :
    Adds 0 (MonadExcept.ofExcept result : Builder α) := by
  cases result with
  | ok a => exact .pure a
  | error e => exact .throw e

theorem Adds.newRule (name : String) (slot : Slot) :
    Adds slot.ruleCount (newRule name slot) :=
  fun _ => ⟨[slot], Nat.le_of_eq (RuleBook.capacity_singleton slot), rfl⟩

theorem recursive_apply (name : String) (scope : Scope) (body : Scope → Builder Parser)
    (book : RuleBook) :
    Builder.recursive name scope body book =
      match body ((name, ⟨book.nextId name, false⟩) :: scope) (book.add .undefined) with
      | .ok p book' =>
        .ok ⟨book.nextId name, true⟩ (book'.fill (book.nextId name) p)
      | .error e book' => .error e book' := by
  show (EStateM.bind (body ((name, ⟨book.nextId name, false⟩) :: scope)) _)
    (book.add .undefined) = _
  unfold EStateM.bind
  rcases body ((name, ⟨book.nextId name, false⟩) :: scope) (book.add .undefined) with _ | _
  · rfl
  · rfl

/-- A recursive rule is made first and gets its body last; in between, its body makes
    the rules that it needs. -/
theorem Adds.recursive {n : Nat} (name : String) (scope : Scope) {body : Scope → Builder Parser}
    (hbody : ∀ scope, Adds n (body scope)) :
    Adds (n + 1) (Builder.recursive name scope body) := by
  intro book
  obtain ⟨added, hsize, hbook⟩ :=
    hbody ((name, ⟨book.nextId name, false⟩) :: scope) (book.add .undefined)
  rw [recursive_apply]
  rcases hrun : body ((name, ⟨book.nextId name, false⟩) :: scope) (book.add .undefined) with
    ⟨p, book'⟩ | ⟨e, book'⟩
  · -- The rule counts for one before and after it gets its body.
    rw [hrun, bookAfter, RuleBook.add, List.append_assoc] at hbook
    refine ⟨[.defined p] ++ added, ?_, ?_⟩
    · rw [RuleBook.capacity_append, RuleBook.capacity_singleton, Slot.ruleCount_defined]
      omega
    · rw [bookAfter, hbook]
      exact RuleBook.fill_next book added name p
  · rw [hrun, bookAfter, RuleBook.add, List.append_assoc] at hbook
    refine ⟨[.undefined] ++ added, ?_, ?_⟩
    · rw [RuleBook.capacity_append, RuleBook.capacity_singleton, Slot.ruleCount_undefined]
      omega
    · simp only [bookAfter, hbook]

end Builder

namespace Blueprint

open Builder

mutual

/-- **Building adds rules**, no more than the blueprint asks for, and leaves those of
    the book as they are. -/
theorem adds_build (registry : Registry) (scope : Scope) (plan : Blueprint) :
    Adds plan.ruleCount (plan.build registry scope) := by
  cases plan with
  | leaf p =>
    simp only [ruleCount, build]
    exact .pure p
  | checked p =>
    simp only [ruleCount, build]
    exact .ofExcept _
  | unary combinator p =>
    simp only [ruleCount, build]
    exact (adds_build registry scope p).andThen
  | binary combinator p q =>
    simp only [ruleCount, build]
    exact (adds_build registry scope p).bind fun _ => (adds_build registry scope q).andThen
  | ternary combinator p q r =>
    simp only [ruleCount, build]
    rw [Nat.add_assoc]
    exact (adds_build registry scope p).bind fun _ =>
      (adds_build registry scope q).bind fun _ => (adds_build registry scope r).andThen
  | switch p branches other =>
    simp only [ruleCount, build]
    rw [Nat.add_assoc]
    exact (adds_build registry scope p).bind fun _ =>
      (adds_buildBranches registry scope branches).bind fun _ =>
        (adds_build registry scope other).andThen
  | recursive name body =>
    simp only [ruleCount, build]
    exact (Adds.recursive name scope fun scope => adds_build registry scope body).andThen
  | deferred name factory =>
    simp only [ruleCount, build]
    rw [Nat.add_comm]
    exact (Adds.newRule name (.deferred ⟨factory, _⟩)).andThen
  | this name =>
    simp only [ruleCount, build]
    exact (Adds.find scope name).andThen
  | kept name =>
    simp only [ruleCount, build]
    exact (Adds.find registry.handles name).andThen
  | weak name =>
    simp only [ruleCount, build]
    exact (Adds.find registry.handles name).andThen
  | stored name =>
    simp only [ruleCount, build]
    exact Adds.find registry.parsers name

theorem adds_buildBranches (registry : Registry) (scope : Scope)
    (branches : List (String × Blueprint)) :
    Adds (branchesCount branches) (buildBranches registry scope branches) := by
  cases branches with
  | nil =>
    simp only [branchesCount, buildBranches]
    exact .pure []
  | cons branch rest =>
    obtain ⟨text, p⟩ := branch
    simp only [branchesCount, buildBranches]
    exact (adds_build registry scope p).bind fun _ =>
      (adds_buildBranches registry scope rest).andThen

end

end Blueprint

/-! ### Rules that have a body -/

namespace RuleBook

def bodyCount (book : RuleBook) : Nat := capacity (book.filter Slot.isDefined)

theorem bodyCount_append (book added : RuleBook) :
    RuleBook.bodyCount (book ++ added) = book.bodyCount + added.bodyCount := by
  simp only [bodyCount, List.filter_append, capacity_append]

theorem bodyCount_of_isDefined {slot : Slot} (h : slot.isDefined = true) :
    RuleBook.bodyCount [slot] = slot.ruleCount := by
  rw [bodyCount, List.filter_cons_of_pos h]
  exact capacity_singleton slot

theorem bodyCount_of_not_isDefined {slot : Slot} (h : slot.isDefined = false) :
    RuleBook.bodyCount [slot] = 0 := by
  rw [bodyCount, List.filter_cons_of_neg (by simp [h])]
  rfl

theorem bodyCount_singleton_le (slot : Slot) : RuleBook.bodyCount [slot] ≤ slot.ruleCount := by
  rcases h : slot.isDefined with _ | _
  · rw [bodyCount_of_not_isDefined h]
    exact Nat.zero_le _
  · exact Nat.le_of_eq (bodyCount_of_isDefined h)

theorem bodyCount_le_capacity (book : RuleBook) : book.bodyCount ≤ book.capacity := by
  induction book with
  | nil => exact Nat.le_refl 0
  | cons slot book ih =>
    rw [← List.singleton_append, bodyCount_append, capacity_append, capacity_singleton]
    exact Nat.add_le_add (bodyCount_singleton_le slot) ih

/-- A count of rules changes with one of them by what that one counts for. -/
theorem count_update {count : RuleBook → Nat}
    (happend : ∀ first second : RuleBook, count (first ++ second) = count first + count second)
    {book : RuleBook} {rule : RuleId} (hlt : rule.index < book.length) (slot : Slot) :
    count (book.update rule slot) + count [book.slot rule] = count book + count [slot] := by
  have hbook : count book = count (List.take rule.index book) + count [book.slot rule] +
      count (List.drop (rule.index + 1) book) := by
    rw [← happend, ← happend, slot_eq_getElem hlt, List.append_assoc, List.singleton_append,
      List.getElem_cons_drop, List.take_append_drop]
  have hupdate : count (book.update rule slot) =
      count (List.take rule.index book) + count [slot] +
        count (List.drop (rule.index + 1) book) := by
    rw [← happend, ← happend, update, List.set_eq_take_append_cons_drop, if_pos hlt,
      List.append_assoc, List.singleton_append]
  omega

theorem capacity_update {book : RuleBook} {rule : RuleId} (hlt : rule.index < book.length)
    (slot : Slot) :
    (book.update rule slot).capacity + (book.slot rule).ruleCount =
      book.capacity + slot.ruleCount := by
  have hcount := count_update capacity_append hlt slot
  rwa [capacity_singleton, capacity_singleton] at hcount

theorem bodyCount_update {book : RuleBook} {rule : RuleId} (hlt : rule.index < book.length)
    (slot : Slot) :
    (book.update rule slot).bodyCount + RuleBook.bodyCount [book.slot rule] =
      book.bodyCount + RuleBook.bodyCount [slot] :=
  count_update bodyCount_append hlt slot

theorem capacity_fill (book : RuleBook) (rule : RuleId) (p : Parser) :
    (book.fill rule p).capacity = book.capacity := by
  rcases Nat.lt_or_ge rule.index book.length with hlt | hge
  · have hcount := capacity_update hlt ((book.slot rule).fill p)
    have hsame : ((book.slot rule).fill p).ruleCount = (book.slot rule).ruleCount := by
      rw [Slot.ruleCount, Slot.ruleCount, Slot.factory_fill]
    rw [fill]
    omega
  · rw [fill, update, List.set_eq_of_length_le hge]

/-- A rule that is filled counts for one more at most. -/
theorem bodyCount_fill_le {book : RuleBook} {rule : RuleId} (p : Parser)
    (hnone : (book.slot rule).factory = none) :
    (book.fill rule p).bodyCount ≤ book.bodyCount + 1 := by
  rcases Nat.lt_or_ge rule.index book.length with hlt | hge
  · have hcount := bodyCount_update hlt ((book.slot rule).fill p)
    have hone : RuleBook.bodyCount [(book.slot rule).fill p] ≤ 1 := by
      refine Nat.le_trans (bodyCount_singleton_le _) ?_
      rw [Slot.ruleCount, Slot.factory_fill, hnone]
      exact Nat.le_refl 1
    rw [fill]
    omega
  · rw [fill, update, List.set_eq_of_length_le hge]
    exact Nat.le_add_right _ 1

/-- A factory that is taken out counts for the rules that it makes, and its rule for one. -/
theorem capacity_take {book : RuleBook} {rule : RuleId} {closure : Closure}
    (hfactory : (book.slot rule).factory = some closure) :
    (book.take rule).capacity + closure.factory.ruleCount = book.capacity := by
  have hlt := index_lt_of_isDefined (Slot.isDefined_of_factory hfactory)
  have hcount := capacity_update hlt (book.slot rule).take
  have htaken : (book.slot rule).take.ruleCount = 1 := rfl
  have hslot : (book.slot rule).ruleCount = 1 + closure.factory.ruleCount := by
    rw [Slot.ruleCount, hfactory]
    rfl
  rw [RuleBook.take]
  omega

theorem bodyCount_take {book : RuleBook} {rule : RuleId} {closure : Closure}
    (hfactory : (book.slot rule).factory = some closure) (hbody : (book.slot rule).body = none) :
    (book.take rule).bodyCount + closure.factory.ruleCount + 1 = book.bodyCount := by
  have hdefined := Slot.isDefined_of_factory hfactory
  have hcount := bodyCount_update (index_lt_of_isDefined hdefined) (book.slot rule).take
  have htaken : RuleBook.bodyCount [(book.slot rule).take] = 0 :=
    bodyCount_of_not_isDefined (Slot.isDefined_eq_false_iff.mpr ⟨rfl, hbody⟩)
  have hslot : RuleBook.bodyCount [book.slot rule] = 1 + closure.factory.ruleCount := by
    rw [bodyCount_of_isDefined hdefined, Slot.ruleCount, hfactory]
    rfl
  rw [RuleBook.take]
  omega

end RuleBook

/-! ### Factories define rules -/

namespace RuleBook

/-- Rules are added, and such as have neither a body nor a factory may be given a body.  All
    that count for at most `n`. -/
structure Develops (n : Nat) (book later : RuleBook) : Prop where
  length_le : book.length ≤ later.length
  filled : ∀ rule : RuleId, rule.index < book.length →
    (book.slot rule).Filled (later.slot rule)
  capacity_le : later.capacity ≤ book.capacity + n
  bodyCount_le : later.bodyCount ≤ book.bodyCount + n

namespace Develops

variable {n m : Nat} {book first second third : RuleBook}

theorem refl (book : RuleBook) : book.Develops 0 book :=
  ⟨Nat.le_refl _, fun rule _ => .refl (book.slot rule), Nat.le_refl _, Nat.le_refl _⟩

theorem trans (h : first.Develops n second) (h' : second.Develops m third) :
    first.Develops (n + m) third where
  length_le := Nat.le_trans h.length_le h'.length_le
  filled rule hlt := (h.filled rule hlt).trans (h'.filled rule (Nat.lt_of_lt_of_le hlt h.length_le))
  capacity_le := by
    have hfirst := h.capacity_le
    have hsecond := h'.capacity_le
    omega
  bodyCount_le := by
    have hfirst := h.bodyCount_le
    have hsecond := h'.bodyCount_le
    omega

theorem mono (h : first.Develops n second) (hle : n ≤ m) : first.Develops m second :=
  ⟨h.length_le, h.filled, Nat.le_trans h.capacity_le (Nat.add_le_add_left hle _),
    Nat.le_trans h.bodyCount_le (Nat.add_le_add_left hle _)⟩

theorem append {added : RuleBook} (h : added.capacity ≤ n) : book.Develops n (book ++ added) where
  length_le := by
    rw [List.length_append]
    exact Nat.le_add_right _ _
  filled rule hlt := .inl (slot_append hlt added)
  capacity_le := by
    rw [capacity_append]
    exact Nat.add_le_add_left h _
  bodyCount_le := by
    rw [bodyCount_append]
    exact Nat.add_le_add_left (Nat.le_trans (bodyCount_le_capacity added) h) _

theorem fill {rule : RuleId} (hnone : (book.slot rule).isDefined = false) (p : Parser) :
    book.Develops 1 (book.fill rule p) where
  length_le := Nat.le_of_eq (length_fill book rule p).symm
  filled other _ := by
    by_cases hindex : other.index = rule.index
    · rw [slot_congr hindex, slot_congr hindex, slot_fill_self]
      exact .inr ⟨hnone, p, rfl⟩
    · rw [slot_fill_of_ne hindex]
      exact .refl _
  capacity_le := Nat.le_trans (Nat.le_of_eq (capacity_fill book rule p)) (Nat.le_add_right _ 1)
  bodyCount_le := bodyCount_fill_le p (Slot.isDefined_eq_false_iff.mp hnone).1

end Develops

end RuleBook

namespace Builder

variable {α β : Type} {n m : Nat}

/-- The step only adds rules and defines such as have neither a body nor a factory, and those
    count for at most `n`. -/
def Develops (n : Nat) (step : Builder α) : Prop :=
  ∀ book : RuleBook, book.Develops n (bookAfter (step book))

theorem Adds.develops {step : Builder α} (h : Adds n step) : Develops n step := by
  intro book
  obtain ⟨added, hsize, hbook⟩ := h book
  rw [hbook]
  exact .append hsize

theorem Develops.bind {step : Builder α} {next : α → Builder β} (hstep : Develops n step)
    (hnext : ∀ a, Develops m (next a)) : Develops (n + m) (step >>= next) := by
  intro book
  have hfirst := hstep book
  rcases hrun : step book with ⟨a, book'⟩ | ⟨e, book'⟩
  · have hbind : (step >>= next) book = next a book' := by
      simp only [Bind.bind, EStateM.bind, hrun]
    rw [hrun, bookAfter] at hfirst
    rw [hbind]
    exact hfirst.trans (hnext a book')
  · have hbind : (step >>= next) book = .error e book' := by
      simp only [Bind.bind, EStateM.bind, hrun]
    rw [hrun, bookAfter] at hfirst
    rw [hbind, bookAfter]
    exact hfirst.mono (Nat.le_add_right n m)

theorem Adds.target (registry : Registry) (captured : Scope) (name : String) :
    Adds 0 (target registry captured name) := by
  unfold Builder.target
  split
  · exact .pure _
  · exact .find _ _

theorem define_apply (h : Handle) (p : Parser) (book : RuleBook) :
    Builder.define h p book =
      if (book.slot h.rule).isDefined then .ok false book else .ok true (book.fill h.rule p) := by
  have hget : (get : Builder RuleBook) book = .ok book book := rfl
  rcases hdefined : (book.slot h.rule).isDefined with _ | _
  · simp only [define, bind, EStateM.bind, hget, RuleBook.define_of_not_isDefined hdefined]
    rfl
  · simp only [define, bind, EStateM.bind, hget, RuleBook.define_of_isDefined hdefined]
    rfl

theorem Develops.define (h : Handle) (p : Parser) : Develops 1 (Builder.define h p) := by
  intro book
  rw [define_apply]
  rcases hdefined : (book.slot h.rule).isDefined with _ | _
  · exact .fill hdefined p
  · exact (RuleBook.Develops.refl book).mono (Nat.zero_le 1)

theorem target_cases (registry : Registry) (captured : Scope) (name : String)
    (book : RuleBook) :
    (∃ h, target registry captured name book = .ok h book) ∨
      ∃ e, target registry captured name book = .error e book := by
  unfold target find
  rcases captured.lookup name with _ | h
  · rcases registry.handles.lookup name with _ | h
    · exact .inr ⟨_, rfl⟩
    · exact .inl ⟨h, rfl⟩
  · exact .inl ⟨h, rfl⟩

end Builder

namespace Factory

variable {registry : Registry} {captured : Scope} {book : RuleBook}

/-- All that a definition by a factory can lead to. -/
theorem run_define_cases (name : String) (plan : Blueprint) (next : Bool → Factory Blueprint)
    (registry : Registry) (captured : Scope) (book : RuleBook) :
    (∃ e book', plan.build registry captured book = .error e book' ∧
      (define name plan next).run registry captured book = .error e book') ∨
    ∃ p book', plan.build registry captured book = .ok p book' ∧
      ((∃ e, (define name plan next).run registry captured book = .error e book') ∨
      ∃ h : Handle, ((book'.slot h.rule).isDefined = true ∧
          (define name plan next).run registry captured book =
            (next false).run registry captured book') ∨
        (book'.slot h.rule).isDefined = false ∧
          (define name plan next).run registry captured book =
            (next true).run registry captured (book'.fill h.rule p)) := by
  rcases hbuild : plan.build registry captured book with ⟨p, book'⟩ | ⟨e, book'⟩
  · refine .inr ⟨p, book', rfl, ?_⟩
    rcases Builder.target_cases registry captured name book' with ⟨h, htarget⟩ | ⟨e, htarget⟩
    · have hdefine := Builder.define_apply h p book'
      refine .inr ⟨h, ?_⟩
      simp only [run, bind, EStateM.bind, hbuild, htarget, hdefine]
      rcases (book'.slot h.rule).isDefined with _ | _
      · exact .inr ⟨rfl, rfl⟩
      · exact .inl ⟨rfl, rfl⟩
    · refine .inl ⟨e, ?_⟩
      simp only [run, bind, EStateM.bind, hbuild, htarget]
  · refine .inl ⟨e, book', rfl, ?_⟩
    simp only [run, bind, EStateM.bind, hbuild]

theorem run_ask_cases (name : String) (next : Bool → Factory Blueprint) (registry : Registry)
    (captured : Scope) (book : RuleBook) :
    (∃ e, (ask name next).run registry captured book = .error e book) ∨
    ∃ h, (ask name next).run registry captured book =
      (next (book.isDefined h)).run registry captured book := by
  rcases Builder.target_cases registry captured name book with ⟨h, htarget⟩ | ⟨e, htarget⟩
  · refine .inr ⟨h, ?_⟩
    simp only [run, bind, EStateM.bind, htarget]
    rfl
  · refine .inl ⟨e, ?_⟩
    simp only [run, bind, EStateM.bind, htarget]

end Factory

/-- **A factory defines only rules that have neither a body nor a factory.** -/
theorem Factory.develops_run (registry : Registry) (captured : Scope)
    (factory : Factory Blueprint) :
    Builder.Develops factory.ruleCount (factory.run registry captured) := by
  induction factory with
  | build plan =>
    simp only [ruleCount, run]
    exact (plan.adds_build registry captured).develops
  | define name plan next ih =>
    simp only [ruleCount, run]
    have hnext : ∀ taken, Builder.Develops (max (next true).ruleCount (next false).ruleCount)
        ((next taken).run registry captured) := by
      intro taken book
      refine (ih taken book).mono ?_
      cases taken with
      | true => exact Nat.le_max_left _ _
      | false => exact Nat.le_max_right _ _
    have hall := (plan.adds_build registry captured).develops.bind fun p =>
      (Builder.Adds.target registry captured name).develops.bind fun h =>
        (Builder.Develops.define h p).bind hnext
    rwa [Nat.zero_add, ← Nat.add_assoc] at hall
  | ask name next ih =>
    simp only [ruleCount, run]
    have hasked : ∀ h : Handle, Builder.Develops (max (next true).ruleCount (next false).ruleCount)
        (do
          let book ← get
          (next (book.isDefined h)).run registry captured) := by
      intro h book
      refine (ih (book.isDefined h) book).mono ?_
      cases book.isDefined h with
      | true => exact Nat.le_max_left _ _
      | false => exact Nat.le_max_right _ _
    have hall := (Builder.Adds.target registry captured name).develops.bind hasked
    rwa [Nat.zero_add] at hall

theorem Closure.book_produce (closure : Closure) (registry : Registry) (book : RuleBook) :
    (closure.produce registry book).2 =
      Builder.bookAfter (closure.factory.run registry closure.captured book) := by
  unfold produce
  split
  · rename_i heq
    rw [heq]
    rfl
  · rename_i heq
    rw [heq]
    rfl

theorem Closure.develops_produce (closure : Closure) (registry : Registry) (book : RuleBook) :
    book.Develops closure.factory.ruleCount (closure.produce registry book).2 := by
  have hrun := closure.factory.develops_run registry closure.captured book
  unfold produce
  split
  · rename_i p book' heq
    rwa [heq] at hrun
  · rename_i e book' heq
    rwa [heq] at hrun

/-! ### Resolving keeps bodies -/

namespace RuleBook

def Grows (book later : RuleBook) : Prop :=
  ∀ rule body, (book.slot rule).body = some body → (later.slot rule).body = some body

theorem Grows.refl (book : RuleBook) : book.Grows book := fun _ _ h => h

theorem Grows.trans {first second third : RuleBook} (h : first.Grows second)
    (h' : second.Grows third) : first.Grows third :=
  fun rule body hbody => h' rule body (h rule body hbody)

theorem index_lt_capacity {book : RuleBook} {rule : RuleId} {body : Parser}
    (h : (book.slot rule).body = some body) : rule.index < book.capacity :=
  Nat.lt_of_lt_of_le (index_lt_of_body h) book.length_le_capacity

end RuleBook

namespace World

variable {w u : World} {k : Handle} {rule other : RuleId} {body : Parser} {closure : Closure}

theorem resolve_of_body (h : (w.book.slot k.rule).body = some body) :
    w.resolve k = (some body, w) := by
  have halive := Slot.alive_of_isDefined (Slot.isDefined_of_body h)
  simp only [resolve, RuleBook.slot?_of_alive halive, h]

theorem resolve_of_factory (hbody : (w.book.slot k.rule).body = none)
    (hfactory : (w.book.slot k.rule).factory = some closure) :
    w.resolve k = w.develop k.rule closure := by
  have halive := Slot.alive_of_isDefined (Slot.isDefined_of_factory hfactory)
  simp only [resolve, RuleBook.slot?_of_alive halive, hbody, hfactory]

theorem resolve_of_not_isDefined (h : (w.book.slot k.rule).isDefined = false) :
    w.resolve k = (none, w) := by
  obtain ⟨hfactory, hbody⟩ := Slot.isDefined_eq_false_iff.mp h
  rcases hslot : w.book.slot? k with _ | slot
  · simp only [resolve, hslot]
  · rw [← RuleBook.eq_of_slot?_eq_some hslot] at hfactory hbody
    simp only [resolve, hslot, hfactory, hbody]

/-- All that resolving can do. -/
theorem resolve_cases (w : World) (k : Handle) :
    ((w.book.slot k.rule).isDefined = false ∧ w.resolve k = (none, w)) ∨
    (∃ body, (w.book.slot k.rule).body = some body ∧ w.resolve k = (some body, w)) ∨
    ∃ closure, (w.book.slot k.rule).body = none ∧ (w.book.slot k.rule).factory = some closure ∧
      w.resolve k = w.develop k.rule closure := by
  rcases hbody : (w.book.slot k.rule).body with _ | body
  · rcases hfactory : (w.book.slot k.rule).factory with _ | closure
    · have hnone := Slot.isDefined_eq_false_iff.mpr ⟨hfactory, hbody⟩
      exact .inl ⟨hnone, resolve_of_not_isDefined hnone⟩
    · exact .inr (.inr ⟨closure, rfl, rfl, resolve_of_factory hbody hfactory⟩)
  · exact .inr (.inl ⟨body, rfl, resolve_of_body hbody⟩)

/-! What running a factory does to its own rule and to the others. -/

theorem book_develop (w : World) (rule : RuleId) (closure : Closure) :
    (w.develop rule closure).2.book =
      (closure.produce w.registry (w.book.take rule)).2.fill rule
        (closure.produce w.registry (w.book.take rule)).1 := rfl

theorem develop_of_ne (hne : other.index ≠ rule.index) (hlt : other.index < w.book.length) :
    (w.book.slot other).Filled ((w.develop rule closure).2.book.slot other) := by
  rw [book_develop, RuleBook.slot_fill_of_ne hne, ← RuleBook.slot_take_of_ne hne]
  refine (closure.develops_produce w.registry (w.book.take rule)).filled other ?_
  rwa [RuleBook.length_take]

/-- While the factory runs, its rule has neither a body nor a factory, and may be given a
    body. -/
theorem filled_produce (hbody : (w.book.slot rule).body = none)
    (hfactory : (w.book.slot rule).factory = some closure) :
    Slot.undefined.Filled ((closure.produce w.registry (w.book.take rule)).2.slot rule) := by
  have hdefined := Slot.isDefined_of_factory hfactory
  have halive := Slot.alive_of_isDefined hdefined
  have htaken : (w.book.take rule).slot rule = .undefined := by
    rw [RuleBook.slot_take_self]
    exact Slot.ext rfl hbody halive
  rw [← htaken]
  refine (closure.develops_produce w.registry (w.book.take rule)).filled rule ?_
  rw [RuleBook.length_take]
  exact RuleBook.index_lt_of_isDefined hdefined

/-- **Behind the run of its factory a rule has a body**, which is the parser that the factory
    gave, unless the rule was given one in the meantime. -/
theorem develop_self (hbody : (w.book.slot rule).body = none)
    (hfactory : (w.book.slot rule).factory = some closure) :
    ∃ body, (w.develop rule closure).1 = some body ∧
      (w.develop rule closure).2.book.slot rule = .defined body := by
  have hfilled := filled_produce hbody hfactory
  have hslot : (w.develop rule closure).2.book.slot rule =
      ((closure.produce w.registry (w.book.take rule)).2.slot rule).fill
        (closure.produce w.registry (w.book.take rule)).1 := by
    rw [book_develop, RuleBook.slot_fill_self]
  have halive := hfilled.alive_eq
  refine ⟨_, ?_, hslot.trans (Slot.ext ?_ (Slot.body_fill halive) ?_)⟩
  · have hfirst : (w.develop rule closure).1 =
        ((w.develop rule closure).2.book.slot rule).body := rfl
    rw [hfirst, hslot, Slot.body_fill halive]
  · rw [Slot.factory_fill, hfilled.factory_eq]
    rfl
  · rw [Slot.alive_fill, halive]
    rfl

theorem length_le_resolve (w : World) (k : Handle) :
    w.book.length ≤ (w.resolve k).2.book.length := by
  rcases w.resolve_cases k with ⟨_, hnone⟩ | ⟨_, _, hsome⟩ | ⟨closure, _, _, hrun⟩
  · exact Nat.le_of_eq (by rw [hnone])
  · exact Nat.le_of_eq (by rw [hsome])
  · have hproduced := (closure.develops_produce w.registry (w.book.take k.rule)).length_le
    rw [RuleBook.length_take] at hproduced
    rw [hrun, book_develop, RuleBook.length_fill]
    exact hproduced

/-- Resolving a rule drops none, and brings none back. -/
theorem alive_resolve (k : Handle) (hlt : other.index < w.book.length) :
    ((w.resolve k).2.book.slot other).alive = (w.book.slot other).alive := by
  rcases w.resolve_cases k with ⟨_, hnone⟩ | ⟨_, _, hsome⟩ | ⟨closure, hbody, hfactory, hrun⟩
  · rw [hnone]
  · rw [hsome]
  · rw [hrun]
    by_cases hindex : other.index = k.rule.index
    · obtain ⟨body, _, hslot⟩ := develop_self hbody hfactory
      rw [RuleBook.slot_congr hindex, RuleBook.slot_congr hindex, hslot]
      exact (Slot.alive_of_isDefined (Slot.isDefined_of_factory hfactory)).symm
    · exact (develop_of_ne hindex hlt).alive_eq

/-- A rule that has a body, or will have one, does not lose it. -/
theorem isDefined_resolve (k : Handle) (h : (w.book.slot other).isDefined = true) :
    ((w.resolve k).2.book.slot other).isDefined = true := by
  rcases w.resolve_cases k with ⟨_, hnone⟩ | ⟨_, _, hsome⟩ | ⟨closure, hbody, hfactory, hrun⟩
  · rwa [hnone]
  · rwa [hsome]
  · rw [hrun]
    by_cases hindex : other.index = k.rule.index
    · obtain ⟨body, _, hslot⟩ := develop_self hbody hfactory
      rw [RuleBook.slot_congr hindex, hslot]
      rfl
    · exact (develop_of_ne hindex (RuleBook.index_lt_of_isDefined h)).isDefined_eq_true h

/-- **A rule that has a body keeps it** when a rule is resolved. -/
theorem grows_resolve (w : World) (k : Handle) : w.book.Grows (w.resolve k).2.book := by
  rcases w.resolve_cases k with ⟨_, hnone⟩ | ⟨_, _, hsome⟩ | ⟨closure, hbody, _, hrun⟩
  · rw [hnone]
    exact .refl _
  · rw [hsome]
    exact .refl _
  · intro other body' hother
    have hne : other.index ≠ k.rule.index := by
      intro heq
      rw [RuleBook.slot_congr heq, hbody] at hother
      cases hother
    rw [hrun]
    exact (develop_of_ne hne (RuleBook.index_lt_of_body hother)).body_eq hother

theorem body_resolve (h : (w.resolve k).1 = some body) :
    ((w.resolve k).2.book.slot k.rule).body = some body := by
  rcases w.resolve_cases k with ⟨_, hnone⟩ | ⟨_, hslot, hsome⟩ | ⟨closure, hbody, hfactory, hrun⟩
  · rw [hnone] at h
    cases h
  · rw [hsome] at h ⊢
    cases h
    exact hslot
  · obtain ⟨body', hfirst, hslot⟩ := develop_self hbody hfactory
    rw [hrun, hfirst] at h
    cases h
    rw [hrun, hslot]
    rfl

theorem resolve_of_none (h : (w.resolve k).1 = none) : w.resolve k = (none, w) := by
  rcases w.resolve_cases k with ⟨_, hnone⟩ | ⟨_, _, hsome⟩ | ⟨closure, hbody, hfactory, hrun⟩
  · exact hnone
  · rw [hsome] at h
    cases h
  · obtain ⟨body, hfirst, _⟩ := develop_self hbody hfactory
    rw [hrun, hfirst] at h
    cases h

theorem isDefined_of_unresolved (hnone : (w.resolve k).1 = none) :
    (w.book.slot k.rule).isDefined = false := by
  rcases w.resolve_cases k with ⟨h, _⟩ | ⟨_, _, hsome⟩ | ⟨closure, hbody, hfactory, hrun⟩
  · exact h
  · rw [hsome] at hnone
    cases hnone
  · obtain ⟨body, hfirst, _⟩ := develop_self hbody hfactory
    rw [hrun, hfirst] at hnone
    cases hnone

/-- **The capacity never goes up.** -/
theorem capacity_resolve_le (w : World) (k : Handle) :
    (w.resolve k).2.book.capacity ≤ w.book.capacity := by
  rcases w.resolve_cases k with ⟨_, hnone⟩ | ⟨_, _, hsome⟩ | ⟨closure, _, hfactory, hrun⟩
  · exact Nat.le_of_eq (by rw [hnone])
  · exact Nat.le_of_eq (by rw [hsome])
  · have htaken := RuleBook.capacity_take hfactory
    have hproduced := (closure.develops_produce w.registry (w.book.take k.rule)).capacity_le
    rw [hrun, book_develop, RuleBook.capacity_fill]
    omega

theorem bodyCount_resolve_le (w : World) (k : Handle) :
    (w.resolve k).2.book.bodyCount ≤ w.book.bodyCount := by
  rcases w.resolve_cases k with ⟨_, hnone⟩ | ⟨_, _, hsome⟩ | ⟨closure, hbody, hfactory, hrun⟩
  · exact Nat.le_of_eq (by rw [hnone])
  · exact Nat.le_of_eq (by rw [hsome])
  · have htaken := RuleBook.bodyCount_take hfactory hbody
    have hproduced := (closure.develops_produce w.registry (w.book.take k.rule)).bodyCount_le
    have hfilled := RuleBook.bodyCount_fill_le (closure.produce w.registry (w.book.take k.rule)).1
      (filled_produce hbody hfactory).factory_eq
    rw [hrun, book_develop]
    omega

@[simp] theorem guard_resolve (w : World) (k : Handle) : (w.resolve k).2.guard = w.guard := by
  rcases w.resolve_cases k with ⟨_, hnone⟩ | ⟨_, _, hsome⟩ | ⟨_, _, _, hrun⟩
  · rw [hnone]
  · rw [hsome]
  · rw [hrun]
    rfl

@[simp] theorem registry_resolve (w : World) (k : Handle) :
    (w.resolve k).2.registry = w.registry := by
  rcases w.resolve_cases k with ⟨_, hnone⟩ | ⟨_, _, hsome⟩ | ⟨_, _, _, hrun⟩
  · rw [hnone]
  · rw [hsome]
  · rw [hrun]
    rfl

/-! ### Worlds with the same rules -/

/-- The two worlds have the same rules, and the same names for what is kept. -/
structure SameRules (w u : World) : Prop where
  book : u.book = w.book
  registry : u.registry = w.registry

namespace SameRules

theorem refl (w : World) : SameRules w w := ⟨rfl, rfl⟩

theorem symm (h : SameRules w u) : SameRules u w := ⟨h.book.symm, h.registry.symm⟩

theorem trans {v : World} (h : SameRules w u) (h' : SameRules u v) : SameRules w v :=
  ⟨h'.book.trans h.book, h'.registry.trans h.registry⟩

/-- Resolving a rule goes the same way in both, and they have the same rules after
    it. -/
theorem resolve (h : SameRules w u) (k : Handle) :
    (u.resolve k).1 = (w.resolve k).1 ∧ SameRules (w.resolve k).2 (u.resolve k).2 := by
  obtain ⟨book, registry, _, _, _⟩ := w
  obtain ⟨book', registry', _, _, _⟩ := u
  obtain ⟨rfl, rfl⟩ := h
  unfold World.resolve
  simp only
  split
  · exact ⟨rfl, rfl, rfl⟩
  · split
    · exact ⟨rfl, rfl, rfl⟩
    · exact ⟨rfl, rfl, rfl⟩
    · exact ⟨rfl, rfl, rfl⟩

end SameRules

end World

end Descent
