/-
  Descent/Proofs/Kinship.lean
  ===========================
  **Kindred grammars** — two grammars that differ only as far as a relation on parsers
  allows.

  A grammar is more than its parsers: rules that are deferred have factories for
  bodies, and these make rules of their own when they are run.  Two blueprints are
  kindred if they are put together in the same way from kindred parts, and two factories
  if they ask the same and define the same rules with kindred blueprints; two worlds
  are if their rules and their stored parsers are, one by one.

  Building goes the same way in kindred worlds (`Blueprint.Kin.build`): it makes the
  same rules in the same order, fails in the same way or not at all, and comes to
  kindred parsers.  Running factories does too.  So rules are resolved to kindred bodies,
  and the worlds are kindred after that (`World.Kin.resolve`).

  A predicate on parsers is compared with itself along `Parser.only`: a world that is
  kindred to itself in this way has no bodies but those of which the predicate holds,
  now and later.
-/
import Descent.Proofs.Growth
import Mathlib.Data.List.Forall2
import Mathlib.Data.Option.Basic

namespace Descent

/-- Kindred parsers are the same, and the predicate holds of them. -/
def Parser.only (P : Parser → Prop) (p q : Parser) : Prop := p = q ∧ P p

/-- A relation on parsers along which grammars can be compared: it holds of each use of a
    rule, and of the bodies of rules that could not be built. -/
structure Kinship (R : Parser → Parser → Prop) : Prop where
  rule : ∀ h, R (.rule h) (.rule h)
  broken : ∀ e : Error, R e.brokenBody e.brokenBody

/-! ### Kindred blueprints, books and worlds -/

def Parser.KinUnder (R : Parser → Parser → Prop) (a b : String × Parser) : Prop :=
  a.1 = b.1 ∧ R a.2 b.2

/-- The factories ask the same and define the same rules, and the one has a related
    blueprint wherever the other has one. -/
inductive Factory.Rel {Plan Plan' : Type} (S : Plan → Plan' → Prop) :
    Factory Plan → Factory Plan' → Prop where
  | build {plan : Plan} {plan' : Plan'} (hplan : S plan plan') : Rel S (.build plan) (.build plan')
  | define {plan : Plan} {plan' : Plan'} {next : Bool → Factory Plan}
    {next' : Bool → Factory Plan'} (name : String) (hplan : S plan plan')
    (hnext : ∀ taken, Rel S (next taken) (next' taken)) :
    Rel S (.define name plan next) (.define name plan' next')
  | ask {next : Bool → Factory Plan} {next' : Bool → Factory Plan'} (name : String)
    (hnext : ∀ known, Rel S (next known) (next' known)) : Rel S (.ask name next) (.ask name next')

theorem Factory.Rel.mono {Plan Plan' : Type} {S T : Plan → Plan' → Prop}
    {factory : Factory Plan} {factory' : Factory Plan'} (h : factory.Rel S factory')
    (hST : ∀ plan plan', S plan plan' → T plan plan') : factory.Rel T factory' := by
  induction h with
  | build hplan => exact .build (hST _ _ hplan)
  | define name hplan _ ih => exact .define name (hST _ _ hplan) ih
  | ask name _ ih => exact .ask name ih

/-- The blueprints are put together in the same way from kindred parts.  A combinator of
    one parser may stand on one side only, if it leaves parsers kindred. -/
inductive Blueprint.Kin (R : Parser → Parser → Prop) : Blueprint → Blueprint → Prop where
  | leaf {p q : Parser} (hp : R p q) : Kin R (.leaf p) (.leaf q)
  | checked {p : Except Error Parser} (hp : ∀ q, p = .ok q → R q q) :
    Kin R (.checked p) (.checked p)
  | unary {f g : Parser → Parser} {p q : Blueprint} (hf : ∀ p q, R p q → R (f p) (g q))
    (hp : Kin R p q) : Kin R (.unary f p) (.unary g q)
  | left {f : Parser → Parser} {p q : Blueprint} (hf : ∀ p q, R p q → R (f p) q)
    (hp : Kin R p q) : Kin R (.unary f p) q
  | right {g : Parser → Parser} {p q : Blueprint} (hg : ∀ p q, R p q → R p (g q))
    (hp : Kin R p q) : Kin R p (.unary g q)
  | binary {f g : Parser → Parser → Parser} {p p' q q' : Blueprint}
    (hf : ∀ p p' q q', R p p' → R q q' → R (f p q) (g p' q')) (hp : Kin R p p')
    (hq : Kin R q q') : Kin R (.binary f p q) (.binary g p' q')
  | ternary {f g : Parser → Parser → Parser → Parser} {p p' q q' r r' : Blueprint}
    (hf : ∀ p p' q q' r r', R p p' → R q q' → R r r' → R (f p q r) (g p' q' r'))
    (hp : Kin R p p') (hq : Kin R q q') (hr : Kin R r r') :
    Kin R (.ternary f p q r) (.ternary g p' q' r')
  | switch {p p' other other' : Blueprint} {branches branches' : List (String × Blueprint)}
    (hf : ∀ p p' cases cases' q q', R p p' → List.Forall₂ (Parser.KinUnder R) cases cases' →
      R q q' → R (Parser.switch p cases q) (Parser.switch p' cases' q'))
    (hp : Kin R p p') (hlength : branches.length = branches'.length)
    (htexts : ∀ pair ∈ branches.zip branches', pair.1.1 = pair.2.1)
    (hbranches : ∀ pair ∈ branches.zip branches', Kin R pair.1.2 pair.2.2)
    (hother : Kin R other other') :
    Kin R (.switch p branches other) (.switch p' branches' other')
  | recursive {body body' : Blueprint} (name : String) (hbody : Kin R body body') :
    Kin R (.recursive name body) (.recursive name body')
  | deferred {factory factory' : Factory Blueprint} (name : String)
    (S : Blueprint → Blueprint → Prop) (hS : ∀ plan plan', S plan plan' → Kin R plan plan')
    (hfactory : factory.Rel S factory') : Kin R (.deferred name factory) (.deferred name factory')
  | this (name : String) : Kin R (.this name) (.this name)
  | kept (name : String) : Kin R (.kept name) (.kept name)
  | weak (name : String) : Kin R (.weak name) (.weak name)
  | stored (name : String) : Kin R (.stored name) (.stored name)

structure Closure.Kin (R : Parser → Parser → Prop) (closure closure' : Closure) : Prop where
  captured : closure'.captured = closure.captured
  factory : closure.factory.Rel (Blueprint.Kin R) closure'.factory

structure Slot.Kin (R : Parser → Parser → Prop) (slot slot' : Slot) : Prop where
  factory : Option.Rel (Closure.Kin R) slot.factory slot'.factory
  body : Option.Rel R slot.body slot'.body
  alive : slot'.alive = slot.alive

def RuleBook.Kin (R : Parser → Parser → Prop) (book book' : RuleBook) : Prop :=
  List.Forall₂ (Slot.Kin R) book book'

structure Registry.Kin (R : Parser → Parser → Prop) (r r' : Registry) : Prop where
  handles : r'.handles = r.handles
  parsers : List.Forall₂ (Parser.KinUnder R) r.parsers r'.parsers

structure World.Kin (R : Parser → Parser → Prop) (w u : World) : Prop where
  book : w.book.Kin R u.book
  registry : w.registry.Kin R u.registry

variable {R : Parser → Parser → Prop}

theorem isSome_eq_of_rel {α β : Type} {S : α → β → Prop} {a : Option α} {b : Option β}
    (h : Option.Rel S a b) : b.isSome = a.isSome := by
  cases h <;> rfl

namespace Slot.Kin

variable {slot slot' : Slot}

theorem undefined : Slot.Kin R .undefined .undefined := ⟨.none, .none, rfl⟩

theorem deferred {closure closure' : Closure} (h : closure.Kin R closure') :
    Slot.Kin R (.deferred closure) (.deferred closure') := ⟨.some h, .none, rfl⟩

theorem dropped : Slot.Kin R .dropped .dropped := ⟨.none, .none, rfl⟩

theorem isDefined_eq (h : slot.Kin R slot') : slot'.isDefined = slot.isDefined := by
  rw [Slot.isDefined, Slot.isDefined, isSome_eq_of_rel h.body,
    isSome_eq_of_rel h.factory]

theorem take (h : slot.Kin R slot') : slot.take.Kin R slot'.take := ⟨.none, h.body, h.alive⟩

theorem fill (h : slot.Kin R slot') {p q : Parser} (hpq : R p q) :
    (slot.fill p).Kin R (slot'.fill q) := by
  rcases halive : slot.alive with _ | _
  · rw [fill_of_dropped halive, fill_of_dropped (h.alive.trans halive)]
    exact h
  · rw [fill_of_alive halive, fill_of_alive (h.alive.trans halive)]
    refine ⟨h.factory, .some ?_, rfl⟩
    have hbody := h.body
    generalize slot.body = body at hbody
    generalize slot'.body = body' at hbody
    cases hbody with
    | none => exact hpq
    | some hbody => exact hbody

end Slot.Kin

namespace RuleBook.Kin

variable {book book' : RuleBook}

theorem add {slot slot' : Slot} (h : book.Kin R book') (hslot : slot.Kin R slot') :
    (book.add slot).Kin R (book'.add slot') :=
  List.rel_append h (.cons hslot .nil)

theorem nextId (h : book.Kin R book') (name : String) : book'.nextId name = book.nextId name := by
  rw [RuleBook.nextId, RuleBook.nextId, List.Forall₂.length_eq h]

theorem slot (h : book.Kin R book') (rule : RuleId) :
    (book.slot rule).Kin R (book'.slot rule) := by
  obtain ⟨index, name⟩ := rule
  simp only [RuleBook.slot]
  induction h generalizing index with
  | nil => exact .dropped
  | cons hfirst _ ih =>
    cases index with
    | zero => exact hfirst
    | succ index => exact ih index

theorem update {slot slot' : Slot} (h : book.Kin R book') (rule : RuleId)
    (hslot : slot.Kin R slot') : (book.update rule slot).Kin R (book'.update rule slot') := by
  obtain ⟨index, name⟩ := rule
  simp only [RuleBook.update]
  induction h generalizing index with
  | nil => exact .nil
  | cons hfirst hrest ih =>
    cases index with
    | zero => exact .cons hslot hrest
    | succ index => exact .cons hfirst (ih index)

theorem take (h : book.Kin R book') (rule : RuleId) : (book.take rule).Kin R (book'.take rule) :=
  h.update rule (h.slot rule).take

theorem fill (h : book.Kin R book') (rule : RuleId) {p q : Parser} (hpq : R p q) :
    (book.fill rule p).Kin R (book'.fill rule q) :=
  h.update rule ((h.slot rule).fill hpq)

theorem isDefined_eq (h : book.Kin R book') (k : Handle) :
    book'.isDefined k = book.isDefined k := by
  rw [RuleBook.isDefined_eq, RuleBook.isDefined_eq, (h.slot k.rule).isDefined_eq]

end RuleBook.Kin

/-! ### Building -/

namespace Builder

variable {α α' β β' : Type} {S : α → α' → Prop} {T : β → β' → Prop}

/-- Both steps of building come to results that `S` relates, or to the same error; the
    books are kindred. -/
inductive KinResult (R : Parser → Parser → Prop) (S : α → α' → Prop) :
    EStateM.Result Error RuleBook α → EStateM.Result Error RuleBook α' → Prop where
  | ok {a : α} {a' : α'} {book book' : RuleBook} (ha : S a a') (hbook : book.Kin R book') :
    KinResult R S (.ok a book) (.ok a' book')
  | error {book book' : RuleBook} (e : Error) (hbook : book.Kin R book') :
    KinResult R S (.error e book) (.error e book')

/-- From kindred books the steps come to kindred results. -/
def KinSteps (R : Parser → Parser → Prop) (S : α → α' → Prop) (step : Builder α)
    (step' : Builder α') : Prop :=
  ∀ book book', RuleBook.Kin R book book' → KinResult R S (step book) (step' book')

namespace KinSteps

theorem pure {a : α} {a' : α'} (ha : S a a') :
    KinSteps R S (Pure.pure a : Builder α) (Pure.pure a') :=
  fun _ _ hbook => .ok ha hbook

theorem throw (e : Error) :
    KinSteps R S (MonadExcept.throw e : Builder α) (MonadExcept.throw e : Builder α') :=
  fun _ _ hbook => .error e hbook

theorem bind {step : Builder α} {step' : Builder α'} {next : α → Builder β}
    {next' : α' → Builder β'} (hstep : KinSteps R S step step')
    (hnext : ∀ a a', S a a' → KinSteps R T (next a) (next' a')) :
    KinSteps R T (step >>= next) (step' >>= next') := by
  intro book book' hbook
  have hfirst := hstep book book' hbook
  simp only [Bind.bind, EStateM.bind]
  rcases hrun : step book with ⟨a, book₁⟩ | ⟨e, book₁⟩
  · rcases hrun' : step' book' with ⟨a', book₁'⟩ | ⟨e', book₁'⟩
    · rw [hrun, hrun'] at hfirst
      obtain ⟨ha, hbook₁⟩ | _ := hfirst
      exact hnext a a' ha book₁ book₁' hbook₁
    · rw [hrun, hrun'] at hfirst
      cases hfirst
  · rcases hrun' : step' book' with ⟨a', book₁'⟩ | ⟨e', book₁'⟩
    · rw [hrun, hrun'] at hfirst
      cases hfirst
    · rw [hrun, hrun'] at hfirst
      cases hfirst with
      | error _ hbook₁ => exact .error e hbook₁

/-- A step, then a function of its result. -/
theorem andThen {step : Builder α} {step' : Builder α'} {value : α → β} {value' : α' → β'}
    (hstep : KinSteps R S step step') (hvalue : ∀ a a', S a a' → T (value a) (value' a')) :
    KinSteps R T (step >>= fun a => Pure.pure (value a))
      (step' >>= fun a => Pure.pure (value' a)) :=
  hstep.bind fun a a' ha => .pure (hvalue a a' ha)

/-- A function of the result on one side only. -/
theorem onLeft {step : Builder α} {step' : Builder α'} {value : α → β} {T : β → α' → Prop}
    (hstep : KinSteps R S step step') (hvalue : ∀ a a', S a a' → T (value a) a') :
    KinSteps R T (step >>= fun a => Pure.pure (value a)) step' := by
  have hboth : KinSteps R T (step >>= fun a => Pure.pure (value a)) (step' >>= Pure.pure) :=
    hstep.bind fun a a' ha => .pure (hvalue a a' ha)
  rwa [bind_pure] at hboth

theorem onRight {step : Builder α} {step' : Builder α'} {value : α' → β} {T : α → β → Prop}
    (hstep : KinSteps R S step step') (hvalue : ∀ a a', S a a' → T a (value a')) :
    KinSteps R T step (step' >>= fun a => Pure.pure (value a)) := by
  have hboth : KinSteps R T (step >>= Pure.pure) (step' >>= fun a => Pure.pure (value a)) :=
    hstep.bind fun a a' ha => .pure (hvalue a a' ha)
  rwa [bind_pure] at hboth

theorem ofExcept {result : Except Error Parser} (hresult : ∀ p, result = .ok p → R p p) :
    KinSteps R R (MonadExcept.ofExcept result : Builder Parser)
      (MonadExcept.ofExcept result : Builder Parser) := by
  cases result with
  | ok p => exact .pure (hresult p rfl)
  | error e => exact .throw e

theorem findHandle (kept : List (String × Handle)) (name : String) :
    KinSteps R Eq (find kept name) (find kept name) := by
  unfold find
  split
  · exact .pure rfl
  · exact .throw _

theorem findParser {kept kept' : List (String × Parser)}
    (hkept : List.Forall₂ (Parser.KinUnder R) kept kept') (name : String) :
    KinSteps R R (find kept name) (find kept' name) := by
  have hlookup : Option.Rel R (kept.lookup name) (kept'.lookup name) := by
    induction hkept with
    | nil => exact .none
    | @cons a b rest rest' hfirst _ ih =>
      obtain ⟨text, p⟩ := a
      obtain ⟨text', q⟩ := b
      obtain ⟨rfl, hpq⟩ : text = text' ∧ R p q := hfirst
      simp only [List.lookup_cons]
      split
      · exact .some hpq
      · exact ih
  unfold find
  rcases hfound : kept.lookup name with _ | p
  · rw [hfound] at hlookup
    rcases hfound' : kept'.lookup name with _ | q
    · exact .throw _
    · rw [hfound'] at hlookup
      cases hlookup
  · rw [hfound] at hlookup
    rcases hfound' : kept'.lookup name with _ | q
    · rw [hfound'] at hlookup
      cases hlookup
    · rw [hfound'] at hlookup
      cases hlookup with
      | some hpq => exact .pure hpq

theorem newRule {slot slot' : Slot} (name : String) (hslot : slot.Kin R slot') :
    KinSteps R Eq (newRule name slot) (newRule name slot') := by
  intro book book' hbook
  have hhandle : (⟨book.nextId name, true⟩ : Handle) = ⟨book'.nextId name, true⟩ := by
    rw [hbook.nextId name]
  exact .ok hhandle (hbook.add hslot)

theorem recursive {body body' : Scope → Builder Parser} (name : String) (scope : Scope)
    (hbody : ∀ scope, KinSteps R R (body scope) (body' scope)) :
    KinSteps R Eq (Builder.recursive name scope body) (Builder.recursive name scope body') := by
  intro book book' hbook
  have hinner := hbody ((name, ⟨book.nextId name, false⟩) :: scope) _ _ (hbook.add .undefined)
  rw [recursive_apply, recursive_apply, hbook.nextId name]
  rcases hrun : body ((name, ⟨book.nextId name, false⟩) :: scope) (book.add .undefined) with
    ⟨p, book₁⟩ | ⟨e, book₁⟩
  · rw [hrun] at hinner
    generalize body' _ _ = result at hinner
    cases hinner with
    | ok hp hbook₁ => exact .ok rfl (hbook₁.fill _ hp)
  · rw [hrun] at hinner
    generalize body' _ _ = result at hinner
    cases hinner with
    | error _ hbook₁ => exact .error e hbook₁

theorem target {registry registry' : Registry} (hregistry : registry.Kin R registry')
    (captured : Scope) (name : String) :
    KinSteps R Eq (target registry captured name) (target registry' captured name) := by
  unfold Builder.target
  split
  · exact .pure rfl
  · rw [hregistry.handles]
    exact .findHandle _ name

theorem define (h : Handle) {p q : Parser} (hpq : R p q) :
    KinSteps R Eq (Builder.define h p) (Builder.define h q) := by
  intro book book' hbook
  rw [define_apply, define_apply, (hbook.slot h.rule).isDefined_eq]
  split
  · exact .ok rfl hbook
  · exact .ok rfl (hbook.fill h.rule hpq)

end KinSteps

end Builder

namespace Factory.Rel

variable {factory factory' : Factory Blueprint}

theorem mentions_eq (h : factory.Rel (fun plan plan' => plan'.mentions = plan.mentions) factory') :
    factory'.mentions = factory.mentions := by
  induction h with
  | build hplan =>
    simp only [mentions]
    exact hplan
  | define name hplan _ ih => simp only [mentions, hplan, ih]
  | ask name _ ih => simp only [mentions, ih]

theorem ruleCount_eq
    (h : factory.Rel (fun plan plan' => plan'.ruleCount = plan.ruleCount) factory') :
    factory'.ruleCount = factory.ruleCount := by
  induction h with
  | build hplan =>
    simp only [ruleCount]
    exact hplan
  | define name hplan _ ih => simp only [ruleCount, hplan, ih]
  | ask name _ ih => simp only [ruleCount, ih]

end Factory.Rel

namespace Blueprint

open Builder

/-- The branches of two switches, one by one. -/
theorem forall₂_branches {branches branches' : List (String × Blueprint)}
    (Q : Blueprint → Blueprint → Prop) (hlength : branches.length = branches'.length)
    (htexts : ∀ pair ∈ branches.zip branches', pair.1.1 = pair.2.1)
    (hbranches : ∀ pair ∈ branches.zip branches', Q pair.1.2 pair.2.2) :
    List.Forall₂ (fun a b => a.1 = b.1 ∧ Q a.2 b.2) branches branches' :=
  List.forall₂_iff_zip.mpr
    ⟨hlength, fun hpair => ⟨htexts _ hpair, hbranches _ hpair⟩⟩

theorem kinSteps_branches {registry registry' : Registry} {scope : Scope}
    {branches branches' : List (String × Blueprint)}
    (hbranches : List.Forall₂ (fun a b => a.1 = b.1 ∧
      KinSteps R R (a.2.build registry scope) (b.2.build registry' scope)) branches branches') :
    KinSteps R (List.Forall₂ (Parser.KinUnder R)) (buildBranches registry scope branches)
      (buildBranches registry' scope branches') := by
  induction hbranches with
  | nil =>
    simp only [buildBranches]
    exact .pure .nil
  | @cons a b rest rest' hfirst _ ih =>
    obtain ⟨text, p⟩ := a
    obtain ⟨text', q⟩ := b
    obtain ⟨rfl, hsteps⟩ := hfirst
    simp only [buildBranches]
    exact hsteps.bind fun p q hpq => ih.andThen fun _ _ hrest => .cons ⟨rfl, hpq⟩ hrest

theorem branchesMention_eq {branches branches' : List (String × Blueprint)}
    (hbranches : List.Forall₂ (fun a b => a.1 = b.1 ∧ b.2.mentions = a.2.mentions)
      branches branches') : branchesMention branches' = branchesMention branches := by
  induction hbranches with
  | nil => rfl
  | @cons a b rest rest' hfirst _ ih => simp only [branchesMention, hfirst.2, ih]

/-- Kindred blueprints ask their scopes for the same names. -/
theorem Kin.mentions_eq {plan plan' : Blueprint} (hplan : plan.Kin R plan') :
    plan'.mentions = plan.mentions := by
  induction hplan with
  | leaf | checked | this | kept | weak | stored => simp only [mentions]
  | unary _ _ ih | left _ _ ih | right _ _ ih | recursive _ _ ih => simp only [mentions, ih]
  | binary _ _ _ ihp ihq => simp only [mentions, ihp, ihq]
  | ternary _ _ _ _ ihp ihq ihr => simp only [mentions, ihp, ihq, ihr]
  | switch _ _ hlength htexts _ _ ihp ihbranches ihother =>
    have hbranches := branchesMention_eq
      (forall₂_branches (fun plan plan' => plan'.mentions = plan.mentions)
        hlength htexts ihbranches)
    simp only [mentions, ihp, ihother, hbranches]
  | deferred _ S _ hfactory ih =>
    simp only [mentions]
    exact (hfactory.mono ih).mentions_eq

/-- **Building kindred blueprints** comes to kindred parsers in kindred books, or to the
    same error. -/
theorem Kin.build (hR : Kinship R) {registry registry' : Registry}
    (hregistry : registry.Kin R registry') {plan plan' : Blueprint} (hplan : plan.Kin R plan')
    (scope : Scope) :
    KinSteps R R (plan.build registry scope) (plan'.build registry' scope) := by
  induction hplan generalizing scope with
  | leaf hp =>
    simp only [Blueprint.build]
    exact .pure hp
  | checked hp =>
    simp only [Blueprint.build]
    exact .ofExcept hp
  | unary hf _ ih =>
    simp only [Blueprint.build]
    exact (ih scope).andThen hf
  | left hf _ ih =>
    simp only [Blueprint.build]
    exact (ih scope).onLeft hf
  | right hg _ ih =>
    simp only [Blueprint.build]
    exact (ih scope).onRight hg
  | binary hf _ _ ihp ihq =>
    simp only [Blueprint.build]
    exact (ihp scope).bind fun p p' hp => (ihq scope).andThen fun q q' hq => hf p p' q q' hp hq
  | ternary hf _ _ _ ihp ihq ihr =>
    simp only [Blueprint.build]
    exact (ihp scope).bind fun p p' hp => (ihq scope).bind fun q q' hq =>
      (ihr scope).andThen fun r r' hr => hf p p' q q' r r' hp hq hr
  | switch hf _ hlength htexts _ _ ihp ihbranches ihother =>
    simp only [Blueprint.build]
    have hbranches := forall₂_branches
      (fun plan plan' => KinSteps R R (plan.build registry scope) (plan'.build registry' scope))
      hlength htexts fun pair hpair => ihbranches pair hpair scope
    exact (ihp scope).bind fun p p' hp =>
      (kinSteps_branches hbranches).bind fun cases cases' hcases =>
        (ihother scope).andThen fun q q' hq => hf p p' cases cases' q q' hp hcases hq
  | recursive name _ ih =>
    simp only [Blueprint.build]
    exact (KinSteps.recursive name scope ih).andThen fun h _ heq => heq ▸ hR.rule h
  | @deferred factory factory' name S hS hfactory _ =>
    simp only [Blueprint.build]
    have hkin := hfactory.mono hS
    have hmentions : factory'.mentions = factory.mentions :=
      (hkin.mono fun _ _ hplan => hplan.mentions_eq).mentions_eq
    have hcaptured : scope.capture factory'.mentions = scope.capture factory.mentions := by
      rw [hmentions]
    exact (KinSteps.newRule name (.deferred ⟨hcaptured, hkin⟩)).andThen
      fun h _ heq => heq ▸ hR.rule h
  | this name =>
    simp only [Blueprint.build]
    exact (KinSteps.findHandle scope name).andThen fun h _ heq => heq ▸ hR.rule h
  | kept name =>
    simp only [Blueprint.build]
    rw [hregistry.handles]
    exact (KinSteps.findHandle _ name).andThen fun h _ heq => heq ▸ hR.rule h
  | weak name =>
    simp only [Blueprint.build]
    rw [hregistry.handles]
    exact (KinSteps.findHandle _ name).andThen fun h _ heq => heq ▸ hR.rule h.downgrade
  | stored name =>
    simp only [Blueprint.build]
    exact KinSteps.findParser hregistry.parsers name

theorem branchesCount_eq {branches branches' : List (String × Blueprint)}
    (hbranches : List.Forall₂ (fun a b => a.1 = b.1 ∧ b.2.ruleCount = a.2.ruleCount)
      branches branches') : branchesCount branches' = branchesCount branches := by
  induction hbranches with
  | nil => rfl
  | @cons a b rest rest' hfirst _ ih => simp only [branchesCount, hfirst.2, ih]

/-- Kindred blueprints make equally many rules. -/
theorem Kin.ruleCount_eq {plan plan' : Blueprint} (hplan : plan.Kin R plan') :
    plan'.ruleCount = plan.ruleCount := by
  induction hplan with
  | leaf | checked | this | kept | weak | stored => simp only [ruleCount]
  | unary _ _ ih | left _ _ ih | right _ _ ih | recursive _ _ ih => simp only [ruleCount, ih]
  | deferred _ S _ hfactory ih =>
    simp only [ruleCount]
    rw [(hfactory.mono ih).ruleCount_eq]
  | binary _ _ _ ihp ihq => simp only [ruleCount, ihp, ihq]
  | ternary _ _ _ _ ihp ihq ihr => simp only [ruleCount, ihp, ihq, ihr]
  | switch _ _ hlength htexts _ _ ihp ihbranches ihother =>
    have hbranches := branchesCount_eq
      (forall₂_branches (fun plan plan' => plan'.ruleCount = plan.ruleCount)
        hlength htexts ihbranches)
    simp only [ruleCount, ihp, ihother, hbranches]

end Blueprint

/-- **Running kindred factories** comes to kindred parsers in kindred books, or to the same
    error. -/
theorem Factory.Rel.run (hR : Kinship R) {registry registry' : Registry}
    (hregistry : registry.Kin R registry') (captured : Scope) {factory factory' : Factory Blueprint}
    (h : factory.Rel (Blueprint.Kin R) factory') :
    Builder.KinSteps R R (factory.run registry captured) (factory'.run registry' captured) := by
  induction h with
  | build hplan =>
    simp only [Factory.run]
    exact hplan.build hR hregistry captured
  | define name hplan _ ih =>
    simp only [Factory.run]
    refine (hplan.build hR hregistry captured).bind fun p q hpq => ?_
    refine (Builder.KinSteps.target hregistry captured name).bind fun k _ heq => heq ▸ ?_
    exact (Builder.KinSteps.define k hpq).bind fun taken _ heq => heq ▸ ih taken
  | ask name _ ih =>
    simp only [Factory.run]
    refine (Builder.KinSteps.target hregistry captured name).bind fun k _ heq => heq ▸ ?_
    intro book book' hbook
    have hasked := ih (book.isDefined k) book book' hbook
    have hsame := hbook.isDefined_eq k
    have hget : ∀ book : RuleBook, (get : Builder RuleBook) book = .ok book book := fun _ => rfl
    simp only [bind, EStateM.bind, hget, hsame]
    exact hasked

theorem Closure.Kin.produce (hR : Kinship R) {registry registry' : Registry}
    (hregistry : registry.Kin R registry') {closure closure' : Closure}
    (h : closure.Kin R closure') {book book' : RuleBook} (hbook : book.Kin R book') :
    R (closure.produce registry book).1 (closure'.produce registry' book').1 ∧
      (closure.produce registry book).2.Kin R (closure'.produce registry' book').2 := by
  have hsteps := h.factory.run hR hregistry closure.captured book book' hbook
  unfold Closure.produce
  rw [h.captured]
  generalize closure.factory.run registry closure.captured book = result at hsteps
  generalize closure'.factory.run registry' closure.captured book' = result' at hsteps
  cases hsteps with
  | ok hp hbook => exact ⟨hp, hbook⟩
  | error e hbook => exact ⟨hR.broken e, hbook⟩

/-- Kindred books have the same capacity. -/
theorem RuleBook.Kin.capacity_eq {book book' : RuleBook} (h : book.Kin R book') :
    book'.capacity = book.capacity := by
  induction h with
  | nil => rfl
  | @cons slot slot' rest rest' hfirst _ ih =>
    have hcount : slot'.ruleCount = slot.ruleCount := by
      have hfactory := hfirst.factory
      unfold Slot.ruleCount
      generalize slot.factory = factory at hfactory
      generalize slot'.factory = factory' at hfactory
      cases hfactory with
      | none => rfl
      | some hclosure =>
        simp only [Option.map_some, Option.getD_some]
        rw [(hclosure.factory.mono fun _ _ hplan => hplan.ruleCount_eq).ruleCount_eq]
    simp only [capacity, List.foldr_cons] at ih ⊢
    rw [ih, hcount]

/-! ### Resolving -/

namespace World

variable {w u : World}

theorem Kin.develop (hR : Kinship R) (hw : w.Kin R u) (rule : RuleId) {closure closure' : Closure}
    (h : closure.Kin R closure') :
    Option.Rel R (w.develop rule closure).1 (u.develop rule closure').1 ∧
      (w.develop rule closure).2.Kin R (u.develop rule closure').2 := by
  obtain ⟨hproduct, hbook⟩ := h.produce hR hw.registry (hw.book.take rule)
  have hfilled := hbook.fill rule hproduct
  exact ⟨(hfilled.slot rule).body, hfilled, hw.registry⟩

/-- **Rules are resolved to kindred bodies** in kindred worlds, which stay kindred. -/
theorem Kin.resolve (hR : Kinship R) (hw : w.Kin R u) (k : Handle) :
    Option.Rel R (w.resolve k).1 (u.resolve k).1 ∧
      (w.resolve k).2.Kin R (u.resolve k).2 := by
  have hslot := hw.book.slot k.rule
  rcases w.resolve_cases k with
    ⟨hnone, hrun⟩ | ⟨body, hbody, hrun⟩ | ⟨closure, hbody, hfactory, hrun⟩
  · rw [hrun, resolve_of_not_isDefined (hslot.isDefined_eq.trans hnone)]
    exact ⟨.none, hw⟩
  · have hkin := hslot.body
    rw [hbody] at hkin
    generalize hbody' : (u.book.slot k.rule).body = found at hkin
    cases hkin with
    | some hkin =>
      rw [hrun, resolve_of_body hbody']
      exact ⟨.some hkin, hw⟩
  · have hkin := hslot.body
    have hclosure := hslot.factory
    rw [hbody] at hkin
    rw [hfactory] at hclosure
    generalize hbody' : (u.book.slot k.rule).body = found at hkin
    generalize hfactory' : (u.book.slot k.rule).factory = found' at hclosure
    cases hkin with
    | none =>
      cases hclosure with
      | some hclosure =>
        rw [hrun, resolve_of_factory hbody' hfactory']
        exact hw.develop hR k.rule hclosure

/-- The predicate holds of every body that a rule has or will have, and of every parser
    that is stored. -/
def Bodies (P : Parser → Prop) (w : World) : Prop := w.Kin (Parser.only P) w

theorem Bodies.kin {P : Parser → Prop} (hw : w.Bodies P) (hsame : SameRules w u) :
    w.Kin (Parser.only P) u := by
  obtain ⟨hbook, hregistry⟩ := hw
  refine ⟨?_, ?_⟩
  · rw [hsame.book]
    exact hbook
  · rw [hsame.registry]
    exact hregistry

end World

end Descent
