/-
  Descent/Proofs/Provenance.lean
  ==============================
  **Where strong handles come from** — names, scopes, and the rules that building makes.

  A blueprint has no handles of its own; a combinator has none to add to those of its parts
  (`Blueprint.Plain`).  So a strong handle of a parser that is built was kept under a name
  or captured in the scope, or it is the handle of a rule that was made for it
  (`Blueprint.Plain.makes`).  A recursive rule is made before its body is built and gives
  its body a weak handle; the strong ones in the body are of rules that were made after it.
  Strong handles among the rules that one building makes therefore point forward only, and
  form no circle.

  A factory does little more than building, some of it for definitions.  What building and
  definitions keep is kept by all of it (`Factory.run_keeps`).
-/
import Descent.Proofs.Ownership

namespace Descent

def Parser.Held (D : Handle → Prop) (p : Parser) : Prop := ∀ h ∈ p.handles, h.strong = true → D h

def Scope.Held (D : Handle → Prop) (scope : Scope) : Prop :=
  ∀ entry ∈ scope, entry.2.strong = true → D entry.2

/-- Strong handles that the names stand for in the scope have the property. -/
def Scope.Gives (D : Handle → Prop) (scope : Scope) (names : List String) : Prop :=
  ∀ name ∈ names, ∀ h, scope.lookup name = some h → h.strong = true → D h

/-- The factory builds the blueprint, for its product or for a definition. -/
inductive Factory.Plans (plan : Blueprint) : Factory Blueprint → Prop
  | product : Plans plan (.build plan)
  | definition {name : String} {next : Bool → Factory Blueprint} :
    Plans plan (.define name plan next)
  | defining {name : String} {other : Blueprint} {next : Bool → Factory Blueprint} {taken : Bool}
    (h : Plans plan (next taken)) : Plans plan (.define name other next)
  | asking {name : String} {next : Bool → Factory Blueprint} {known : Bool}
    (h : Plans plan (next known)) : Plans plan (.ask name next)

/-- All strong handles of the parsers that are built are of rules that are made for them, or
    were captured, or, if `named` says so, were kept under names.  In particular combinators
    have no strong handles of their own. -/
inductive Blueprint.Plain (named : Bool) : Blueprint → Prop
  | leaf {p : Parser} (hp : p.Held fun _ => False) : Plain named (.leaf p)
  | checked {p : Except Error Parser} (hp : ∀ q, p = .ok q → q.Held fun _ => False) :
    Plain named (.checked p)
  | unary {f : Parser → Parser} {p : Blueprint}
    (hf : ∀ a D, a.Held D → (f a).Held D) (hp : Plain named p) : Plain named (.unary f p)
  | binary {f : Parser → Parser → Parser} {p q : Blueprint}
    (hf : ∀ a b D, a.Held D → b.Held D → (f a b).Held D) (hp : Plain named p)
    (hq : Plain named q) : Plain named (.binary f p q)
  | ternary {f : Parser → Parser → Parser → Parser} {p q r : Blueprint}
    (hf : ∀ a b c D, a.Held D → b.Held D → c.Held D → (f a b c).Held D) (hp : Plain named p)
    (hq : Plain named q) (hr : Plain named r) : Plain named (.ternary f p q r)
  | switch {p other : Blueprint} {branches : List (String × Blueprint)} (hp : Plain named p)
    (hbranches : ∀ branch ∈ branches, Plain named branch.2) (hother : Plain named other) :
    Plain named (.switch p branches other)
  | recursive (name : String) {body : Blueprint} (hbody : Plain named body) :
    Plain named (.recursive name body)
  | deferred (name : String) {factory : Factory Blueprint}
    (hfactory : ∀ plan, factory.Plans plan → Plain named plan) :
    Plain named (.deferred name factory)
  | this (name : String) : Plain named (.this name)
  | weak (name : String) : Plain named (.weak name)
  | kept (name : String) (hnamed : named = true) : Plain named (.kept name)
  | stored (name : String) (hnamed : named = true) : Plain named (.stored name)

def Factory.Plain (named : Bool) (factory : Factory Blueprint) : Prop :=
  ∀ plan, factory.Plans plan → plan.Plain named

/-- The handle has the property, or it is of one of the rules from `start` up to `stop`. -/
def Handle.Drawn (D : Handle → Prop) (start stop : Nat) (h : Handle) : Prop :=
  D h ∨ (start ≤ h.rule.index ∧ h.rule.index < stop)

/-- The rule at the place was made for what is built, up to `stop`: its strong handles have the
    property or are of rules that were made after it, and its factory is plain. -/
structure Slot.Made (named : Bool) (D : Handle → Prop) (i stop : Nat) (slot : Slot) : Prop where
  holds : ∀ h ∈ slot.holds, h.Drawn D (i + 1) stop
  plain : ∀ closure, slot.factory = some closure →
    closure.factory.Plain named ∧ closure.captured.Held D
  alive : slot.alive = true

namespace Parser.Held

variable {D E : Handle → Prop} {p q r : Parser}

theorem mono (hp : p.Held D) (h : ∀ k, D k → E k) : p.Held E :=
  fun k hk hstrong => h k (hp k hk hstrong)

theorem of_handles (h : p.handles = []) : p.Held D := by
  intro k hk
  rw [h] at hk
  cases hk

theorem switch {branches : List (String × Parser)} (hp : p.Held D)
    (hbranches : ∀ branch ∈ branches, branch.2.Held D) (hq : q.Held D) :
    (p.switch branches q).Held D := by
  intro k hk
  rcases List.mem_append.mp hk with hk | hk
  · exact hp k hk
  · rcases List.mem_append.mp hk with hk | hk
    · obtain ⟨branch, hmem, hk⟩ := List.mem_flatMap.mp hk
      exact hbranches branch hmem k hk
    · exact hq k hk

theorem rule {h : Handle} (hD : h.strong = true → D h) : (Parser.rule h).Held D := by
  intro k hk hstrong
  rw [List.mem_singleton.mp hk] at hstrong ⊢
  exact hD hstrong

end Parser.Held

namespace Scope

variable {D : Handle → Prop} {scope : Scope} {names some : List String} {name : String}

theorem Held.gives (h : scope.Held D) (names : List String) : scope.Gives D names := by
  intro name _ k hlookup hstrong
  obtain ⟨before, after, heq, _⟩ := List.lookup_eq_some_iff.mp hlookup
  exact h (name, k) (heq ▸ by simp) hstrong

theorem gives_nil : Gives D [] names := fun _ _ _ hlookup => nomatch hlookup

namespace Gives

theorem of_subset (h : scope.Gives D names) (hsome : ∀ name ∈ some, name ∈ names) :
    scope.Gives D some := fun name hname => h name (hsome name hname)

/-- A recursive rule gives its body a weak handle, and the scope gives the rest. -/
theorem cons_weak (h : scope.Gives D (names.filter (· ≠ name))) (rule : RuleId) :
    Gives D ((name, ⟨rule, false⟩) :: scope) names := by
  intro other hother k hlookup hstrong
  rw [List.lookup_cons] at hlookup
  split at hlookup
  · cases hlookup
    cases hstrong
  · rename_i hne
    exact h other (List.mem_filter.mpr ⟨hother, by simpa using hne⟩) k hlookup hstrong

theorem held_capture (h : scope.Gives D names) : (scope.capture names).Held D := by
  intro entry hentry hstrong
  obtain ⟨name, hname, hcaptured⟩ := List.mem_filterMap.mp hentry
  obtain ⟨k, hlookup, rfl⟩ := Option.map_eq_some_iff.mp hcaptured
  exact h name hname k hlookup hstrong

end Gives

end Scope

theorem Handle.Drawn.mono {D : Handle → Prop} {start start' stop stop' : Nat} {h : Handle}
    (hdrawn : h.Drawn D start stop) (hstart : start' ≤ start) (hstop : stop ≤ stop') :
    h.Drawn D start' stop' :=
  hdrawn.imp_right fun ⟨hle, hlt⟩ => ⟨hstart.trans hle, hlt.trans_le hstop⟩

/-- More rules may be made behind those that the parser holds. -/
theorem Parser.Held.drawn_le {D : Handle → Prop} {start stop stop' : Nat} {p : Parser}
    (hp : p.Held (Handle.Drawn D start stop)) (hstop : stop ≤ stop') :
    p.Held (Handle.Drawn D start stop') :=
  hp.mono fun _ hdrawn => hdrawn.mono (Nat.le_refl start) hstop

namespace Slot

variable {named : Bool} {D : Handle → Prop} {i stop stop' : Nat} {slot : Slot} {p : Parser}
  {closure : Closure} {k : Handle}

theorem Made.mono (h : slot.Made named D i stop) (hstop : stop ≤ stop') :
    slot.Made named D i stop' :=
  ⟨fun k hk => (h.holds k hk).mono (Nat.le_refl _) hstop, h.plain, h.alive⟩

theorem made_undefined : undefined.Made named D i stop where
  holds := List.forall_mem_nil _
  plain := by rintro _ ⟨⟩
  alive := rfl

theorem mem_holds : k ∈ slot.holds ↔ k.strong = true ∧
    ((∃ closure, slot.factory = some closure ∧ ∃ entry ∈ closure.captured, entry.2 = k) ∨
      ∃ p, slot.body = some p ∧ k ∈ p.handles) := by
  rw [holds, List.mem_filter, and_comm, List.mem_append]
  refine and_congr_right fun _ => or_congr ?_ ?_
  · rcases slot.factory with _ | closure <;> simp
  · rcases slot.body with _ | p <;> simp

theorem made_defined (hp : p.Held (Handle.Drawn D (i + 1) stop)) :
    (defined p).Made named D i stop where
  holds k hk := by
    obtain ⟨hstrong, ⟨_, ⟨⟩, _⟩ | ⟨_, ⟨⟩, hmem⟩⟩ := mem_holds.mp hk
    exact hp k hmem hstrong
  plain := by rintro _ ⟨⟩
  alive := rfl

theorem made_deferred (hfactory : closure.factory.Plain named)
    (hcaptured : closure.captured.Held D) :
    (deferred closure).Made named D i stop where
  holds k hk := by
    obtain ⟨hstrong, ⟨_, ⟨⟩, entry, hentry, rfl⟩ | ⟨_, ⟨⟩, _⟩⟩ := mem_holds.mp hk
    exact .inl (hcaptured entry hentry hstrong)
  plain := by
    rintro _ ⟨⟩
    exact ⟨hfactory, hcaptured⟩
  alive := rfl

end Slot

namespace Registry

variable {registry : Registry} {name : String} {h : Handle} {p : Parser}

theorem mem_roots_of_lookup (hlookup : registry.handles.lookup name = some h) :
    h ∈ registry.roots := by
  obtain ⟨before, after, heq, _⟩ := List.lookup_eq_some_iff.mp hlookup
  refine List.mem_append_left _ (List.mem_map.mpr ⟨(name, h), ?_, rfl⟩)
  rw [heq]
  simp

theorem mem_roots_of_stored (hlookup : registry.parsers.lookup name = some p)
    (hmem : h ∈ p.handles) : h ∈ registry.roots := by
  obtain ⟨before, after, heq, _⟩ := List.lookup_eq_some_iff.mp hlookup
  refine List.mem_append_right _ (List.mem_flatMap.mpr ⟨(name, p), ?_, hmem⟩)
  rw [heq]
  simp

end Registry

theorem RuleBook.length_add (book : RuleBook) (slot : Slot) :
    (book.add slot).length = book.length + 1 := List.length_append

/-! ### Steps of building -/

namespace Builder

variable {α β : Type} {named : Bool} {D : Handle → Prop} {book : RuleBook}

/-- A step of building goes on from a book and leaves it as it is, the rules behind it are
    made for what is built, and the value of the step has a property of the size of the
    book.  A step that ends in a value leaves no rule with neither a body nor a factory. -/
structure Makes (named : Bool) (D : Handle → Prop) (Q : Nat → α → Prop) (book : RuleBook)
    (result : EStateM.Result Error RuleBook α) : Prop where
  kept : book <+: bookAfter result
  made : ∀ i slot, book.length ≤ i → (bookAfter result)[i]? = some slot →
    slot.Made named D i (bookAfter result).length
  defined : ∀ a book', result = .ok a book' → ∀ i slot, book.length ≤ i →
    book'[i]? = some slot → slot.isDefined = true
  value : ∀ a book', result = .ok a book' → Q book'.length a

namespace Makes

variable {Q : Nat → α → Prop} {R : Nat → β → Prop} {step : Builder α}

theorem getElem?_none {book : RuleBook} {i : Nat} {slot : Slot} (h : book.length ≤ i)
    (hget : book[i]? = some slot) : False := by
  rw [List.getElem?_eq_none h] at hget
  cases hget

theorem pure {a : α} (ha : Q book.length a) :
    Makes named D Q book ((Pure.pure a : Builder α) book) where
  kept := List.prefix_rfl
  made _ _ hle hget := (getElem?_none hle hget).elim
  defined := by
    rintro _ _ ⟨⟩ _ _ hle hget
    exact (getElem?_none hle hget).elim
  value := by
    rintro _ _ ⟨⟩
    exact ha

theorem throw (e : Error) : Makes named D Q book ((MonadExcept.throw e : Builder α) book) where
  kept := List.prefix_rfl
  made _ _ hle hget := (getElem?_none hle hget).elim
  defined := by rintro _ _ ⟨⟩
  value := by rintro _ _ ⟨⟩

theorem bind {next : α → Builder β} (hstep : Makes named D Q book (step book))
    (hnext : ∀ a book', book.length ≤ book'.length → Q book'.length a →
      Makes named D R book' (next a book')) :
    Makes named D R book ((step >>= next) book) := by
  rcases hrun : step book with ⟨a, book'⟩ | ⟨e, book'⟩
  · have hbind : (step >>= next) book = next a book' := by
      simp only [Bind.bind, EStateM.bind, hrun]
    rw [hrun] at hstep
    have hle : book.length ≤ book'.length := hstep.kept.length_le
    have hmore := hnext a book' hle (hstep.value _ _ rfl)
    rw [hbind]
    -- What the step has made is still there behind the next one.
    have hsame : ∀ i, i < book'.length → (bookAfter (next a book'))[i]? = book'[i]? := by
      intro i hi
      obtain ⟨added, hadded⟩ := hmore.kept
      rw [← hadded, List.getElem?_append_left hi]
    constructor
    · exact hstep.kept.trans hmore.kept
    · intro i slot hi hget
      rcases Nat.lt_or_ge i book'.length with hlt | hge
      · rw [hsame i hlt] at hget
        exact (hstep.made i slot hi hget).mono hmore.kept.length_le
      · exact hmore.made i slot hge hget
    · intro b book'' hok i slot hi hget
      rcases Nat.lt_or_ge i book'.length with hlt | hge
      · have hget' := hsame i hlt
        rw [hok, bookAfter, hget] at hget'
        exact hstep.defined _ _ rfl i slot hi hget'.symm
      · exact hmore.defined b book'' hok i slot hge hget
    · exact hmore.value
  · have hbind : (step >>= next) book = .error e book' := by
      simp only [Bind.bind, EStateM.bind, hrun]
    rw [hrun] at hstep
    rw [hbind]
    refine ⟨hstep.kept, hstep.made, ?_, ?_⟩ <;> rintro _ _ ⟨⟩

theorem andThen {value : α → β} (hstep : Makes named D Q book (step book))
    (hvalue : ∀ a n, book.length ≤ n → Q n a → R n (value a)) :
    Makes named D R book ((step >>= fun a => Pure.pure (value a)) book) :=
  hstep.bind fun a book' hle ha => .pure (hvalue a book'.length hle ha)

theorem lookup {kept : List (String × α)} (name : String)
    (hkept : ∀ a, kept.lookup name = some a → Q book.length a) :
    Makes named D Q book (Builder.find kept name book) := by
  unfold Builder.find
  rcases hlookup : kept.lookup name with _ | a
  · exact .throw _
  · exact .pure (hkept a hlookup)

theorem ofExcept {result : Except Error α} (h : ∀ a, result = .ok a → Q book.length a) :
    Makes named D Q book ((MonadExcept.ofExcept result : Builder α) book) := by
  cases result with
  | ok a => exact .pure (h a rfl)
  | error e => exact .throw e

theorem newRule {Q : Nat → Handle → Prop} {slot : Slot} (name : String)
    (hdefined : slot.isDefined = true)
    (hmade : slot.Made named D book.length (book.length + 1))
    (hQ : Q (book.length + 1) ⟨book.nextId name, true⟩) :
    Makes named D Q book (Builder.newRule name slot book) := by
  have hlength := book.length_add slot
  have hget : ∀ i other, book.length ≤ i → (book.add slot)[i]? = some other →
      i = book.length ∧ other = slot := by
    intro i other hle hget
    rw [RuleBook.add, List.getElem?_append_right hle] at hget
    obtain ⟨hlt, hother⟩ := List.getElem?_eq_some_iff.mp hget
    simp only [List.length_singleton] at hlt
    exact ⟨by omega, by simpa using hother.symm⟩
  constructor
  · exact List.prefix_append _ _
  · intro i other hle hi
    obtain ⟨rfl, rfl⟩ := hget i other hle hi
    exact hlength ▸ hmade
  · rintro _ _ ⟨⟩ i other hle hi
    obtain ⟨_, rfl⟩ := hget i other hle hi
    exact hdefined
  · rintro _ _ ⟨⟩
    exact hlength ▸ hQ

/-- A rule that was made before its body takes it. -/
theorem filled {k : Nat} {name : String} {p : Parser} {book' : RuleBook} (hk : k ≤ book.length)
    (hbody : Makes named D (fun stop p => p.Held (Handle.Drawn D (book.length + 1) stop))
      (book.add .undefined) (.ok p book')) :
    Makes named D (fun stop (h : Handle) => h.Drawn D k stop) book
      (.ok ⟨book.nextId name, true⟩ (book'.fill (book.nextId name) p)) := by
  have hlength := book.length_add .undefined
  have hle : book.length + 1 ≤ book'.length := hlength ▸ hbody.kept.length_le
  obtain ⟨added, hadded⟩ := hbody.kept
  rw [RuleBook.add, List.append_assoc] at hadded
  have hfill : book'.fill (book.nextId name) p = book ++ ([.defined p] ++ added) := by
    have hbook' : book' = book ++ ([.undefined] ++ added) := hadded.symm
    rw [hbook']
    exact RuleBook.fill_next book added name p
  have hget : ∀ i slot, book.length ≤ i → (book'.fill (book.nextId name) p)[i]? = some slot →
      slot = .defined p ∧ i = book.length ∨ book.length + 1 ≤ i ∧ book'[i]? = some slot := by
    intro i slot hi hget
    rcases Nat.eq_or_lt_of_le hi with rfl | hlt
    · rw [hfill] at hget
      exact .inl ⟨by simpa using hget.symm, rfl⟩
    · rw [RuleBook.fill, RuleBook.update, RuleBook.nextId, List.getElem?_set_ne (Nat.ne_of_lt hlt)]
        at hget
      exact .inr ⟨hlt, hget⟩
  constructor
  · exact ⟨[.defined p] ++ added, hfill.symm⟩
  · intro i slot hi hslot
    rw [bookAfter, RuleBook.length_fill]
    rcases hget i slot hi hslot with ⟨rfl, rfl⟩ | ⟨hlt, hslot⟩
    · exact Slot.made_defined (hbody.value p book' rfl)
    · exact hbody.made i slot (hlength ▸ hlt) hslot
  · rintro _ _ ⟨⟩ i slot hi hslot
    rcases hget i slot hi hslot with ⟨rfl, rfl⟩ | ⟨hlt, hslot⟩
    · rfl
    · exact hbody.defined p book' rfl i slot (hlength ▸ hlt) hslot
  · rintro _ _ ⟨⟩
    exact .inr ⟨hk, (RuleBook.length_fill book' _ p).symm ▸ hle⟩

/-- A rule whose body could not be built is left without one. -/
theorem unfilled {R : Nat → β → Prop} {e : Error} {book' : RuleBook}
    (hbody : Makes named D Q (book.add .undefined) (.error e book')) :
    Makes named D R book (.error e book') := by
  obtain ⟨added, hadded⟩ := hbody.kept
  constructor
  · exact (List.prefix_append _ _).trans hbody.kept
  · intro i slot hi hget
    rcases Nat.eq_or_lt_of_le hi with rfl | hlt
    · have hbook' : book ++ [.undefined] ++ added = book' := hadded
      have hfirst : book'[book.length]? = some .undefined := by
        rw [← hbook']
        simp
      cases hfirst.symm.trans hget
      exact Slot.made_undefined
    · exact hbody.made i slot (book.length_add .undefined ▸ hlt) hget
  · rintro _ _ ⟨⟩
  · rintro _ _ ⟨⟩

/-- A recursive rule comes first, then the rules of its body, and the body is put in its
    place last. -/
theorem recursive {k : Nat} {name : String} {scope : Scope} {body : Scope → Builder Parser}
    (hk : k ≤ book.length)
    (hbody : Makes named D
      (fun stop p => p.Held (Handle.Drawn D (book.length + 1) stop))
      (book.add .undefined)
      (body ((name, ⟨book.nextId name, false⟩) :: scope) (book.add .undefined))) :
    Makes named D (fun stop h => h.Drawn D k stop) book
      (Builder.recursive name scope body book) := by
  rw [recursive_apply]
  rcases hrun : body ((name, ⟨book.nextId name, false⟩) :: scope) (book.add .undefined) with
    ⟨p, book'⟩ | ⟨e, book'⟩
  · rw [hrun] at hbody
    exact hbody.filled hk
  · rw [hrun] at hbody
    exact hbody.unfilled

end Makes

end Builder

/-! ### Blueprints -/

namespace Blueprint

open Builder

variable {named : Bool} {D : Handle → Prop} {registry : Registry} {scope : Scope}

theorem mem_branchesMention {branch : String × Blueprint} {branches : List (String × Blueprint)}
    {name : String} (hbranch : branch ∈ branches) (hname : name ∈ branch.2.mentions) :
    name ∈ branchesMention branches := by
  induction branches with
  | nil => cases hbranch
  | cons first rest ih =>
    obtain ⟨text, plan⟩ := first
    rw [branchesMention]
    rcases List.mem_cons.mp hbranch with rfl | hrest
    · exact List.mem_append_left _ hname
    · exact List.mem_append_right _ (ih hrest)

theorem makes_branches {k : Nat} {book : RuleBook} {branches : List (String × Blueprint)}
    (hk : k ≤ book.length)
    (hbranches : ∀ branch ∈ branches, ∀ book : RuleBook, k ≤ book.length →
      Makes named D (fun stop p => p.Held (Handle.Drawn D k stop)) book
        (branch.2.build registry scope book)) :
    Makes named D
      (fun stop built => ∀ branch ∈ built, branch.2.Held (Handle.Drawn D k stop)) book
      (buildBranches registry scope branches book) := by
  induction branches generalizing book with
  | nil =>
    simp only [buildBranches]
    exact .pure (List.forall_mem_nil _)
  | cons branch rest ih =>
    obtain ⟨text, plan⟩ := branch
    simp only [buildBranches]
    refine (hbranches (text, plan) List.mem_cons_self book hk).bind fun p book' hle hp => ?_
    have hrest := ih (hk.trans hle) fun branch hmem => hbranches branch (.tail _ hmem)
    refine hrest.andThen fun built n hn hbuilt => List.forall_mem_cons.mpr ⟨?_, hbuilt⟩
    exact hp.drawn_le hn

/-- **What building makes.**  Strong handles of the parser that is built, and of the rules that
    are made for it, are given by the scope or kept under names, or they are of rules made for
    it; in a rule, of rules made after it. -/
theorem Plain.makes_build {plan : Blueprint} (hplan : plan.Plain named)
    (hnamed : named = true → ∀ h ∈ registry.roots, D h) (hscope : scope.Gives D plan.mentions)
    {k : Nat} {book : RuleBook} (hk : k ≤ book.length) :
    Makes named D (fun stop p => p.Held (Handle.Drawn D k stop)) book
      (plan.build registry scope book) := by
  induction hplan generalizing scope k book with
  | leaf hp =>
    simp only [build]
    exact .pure (hp.mono fun _ => False.elim)
  | checked hp =>
    simp only [build]
    exact .ofExcept fun p hok => (hp p hok).mono fun _ => False.elim
  | unary hf _ ih =>
    simp only [build]
    rw [mentions] at hscope
    exact (ih hscope hk).andThen fun p n _ hp => hf p _ hp
  | binary hf _ _ ihp ihq =>
    simp only [build]
    rw [mentions] at hscope
    have hscopep := hscope.of_subset fun _ => List.mem_append_left _
    have hscopeq := hscope.of_subset fun _ => List.mem_append_right _
    refine (ihp hscopep hk).bind fun p book' hle hp => ?_
    refine (ihq hscopeq (hk.trans hle)).andThen fun q n hn hq => hf p q _ ?_ hq
    exact hp.drawn_le hn
  | ternary hf _ _ _ ihp ihq ihr =>
    simp only [build]
    rw [mentions] at hscope
    have hscopepq := hscope.of_subset fun _ => List.mem_append_left _
    have hscopep := hscopepq.of_subset fun _ => List.mem_append_left _
    have hscopeq := hscopepq.of_subset fun _ => List.mem_append_right _
    have hscoper := hscope.of_subset fun _ => List.mem_append_right _
    refine (ihp hscopep hk).bind fun p book₁ hle hp => ?_
    refine (ihq hscopeq (hk.trans hle)).bind fun q book₂ hle' hq => ?_
    refine (ihr hscoper ((hk.trans hle).trans hle')).andThen fun r n hn hr =>
      hf p q r _ ?_ ?_ hr
    · exact hp.drawn_le (hle'.trans hn)
    · exact hq.drawn_le hn
  | @switch p other branches _ _ _ ihp ihbranches ihother =>
    simp only [build]
    rw [mentions] at hscope
    have hscopep := hscope.of_subset fun _ hmem =>
      List.mem_append_left _ (List.mem_append_left _ hmem)
    have hscopeother := hscope.of_subset fun _ => List.mem_append_right _
    refine (ihp hscopep hk).bind fun p book₁ hle hp => ?_
    have hbranches := makes_branches (hk.trans hle) fun branch hmem book hbook =>
      ihbranches branch hmem (hscope.of_subset fun name hname =>
        List.mem_append_left _ (List.mem_append_right _ (mem_branchesMention hmem hname))) hbook
    refine hbranches.bind fun built book₂ hle' hbuilt => ?_
    refine (ihother hscopeother ((hk.trans hle).trans hle')).andThen fun other n hn hother => ?_
    exact .switch (hp.drawn_le (hle'.trans hn))
      (fun branch hmem => (hbuilt branch hmem).drawn_le hn) hother
  | recursive name _ ih =>
    simp only [build]
    rw [mentions] at hscope
    refine (Makes.recursive hk (ih (hscope.cons_weak _) ?_)).andThen fun h n _ hh =>
      .rule fun _ => hh
    exact Nat.le_of_eq (RuleBook.length_add _ _).symm
  | @deferred name factory hfactory _ =>
    simp only [build]
    rw [mentions] at hscope
    have hnew : Makes named D (fun stop h => h.Drawn D k stop) book
        (newRule name (.deferred ⟨factory, scope.capture factory.mentions⟩) book) :=
      .newRule name rfl (Slot.made_deferred hfactory hscope.held_capture)
        (.inr ⟨hk, Nat.lt_succ_self _⟩)
    exact hnew.andThen fun h n _ hh => .rule fun _ => hh
  | this name =>
    simp only [build]
    have hfind : Makes named D (fun _ (h : Handle) => h.strong = true → D h) book
        (Builder.find scope name book) := .lookup name fun h hlookup =>
      hscope name (List.mem_singleton_self name) h hlookup
    exact hfind.andThen fun h n _ hdrawn => .rule fun hstrong => .inl (hdrawn hstrong)
  | weak name =>
    simp only [build]
    have hfind : Makes named D (fun _ _ => True) book (Builder.find registry.handles name book) :=
      .lookup name fun _ _ => trivial
    exact hfind.andThen fun h n _ _ => .rule (by rintro ⟨⟩)
  | kept name hname =>
    simp only [build]
    have hfind : Makes named D (fun _ (h : Handle) => h ∈ registry.roots) book
        (Builder.find registry.handles name book) :=
      .lookup name fun _ => Registry.mem_roots_of_lookup
    exact hfind.andThen fun h n _ hmem => .rule fun _ => .inl (hnamed hname h hmem)
  | stored name hname =>
    simp only [build]
    refine Makes.lookup name fun p hlookup h hmem _ => .inl (hnamed hname h ?_)
    exact Registry.mem_roots_of_stored hlookup hmem

theorem Plain.makes {plan : Blueprint} (hplan : plan.Plain named) (registry : Registry)
    (hnamed : named = true → ∀ h ∈ registry.roots, D h) (hscope : scope.Gives D plan.mentions)
    (book : RuleBook) :
    Makes named D (fun stop p => p.Held (Handle.Drawn D book.length stop)) book
      (plan.build registry scope book) :=
  hplan.makes_build hnamed hscope (Nat.le_refl _)

theorem Plain.makes_recursive {plan : Blueprint} (hplan : plan.Plain named) (name : String)
    (registry : Registry) (hnamed : named = true → ∀ h ∈ registry.roots, D h) (book : RuleBook) :
    Makes named D (fun stop h => h.Drawn D book.length stop) book
      (Builder.recursive name [] (fun scope => plan.build registry scope) book) := by
  refine .recursive (Nat.le_refl _) (hplan.makes_build hnamed (Scope.gives_nil.cons_weak _) ?_)
  exact Nat.le_of_eq (book.length_add _).symm

end Blueprint

/-! ### Factories -/

/-- The book that the factory leaves has the property, and its product is one of its plans,
    built last, from a book with the property. -/
structure Factory.Keeps (registry : Registry) (captured : Scope) (J : RuleBook → Prop)
    (factory : Factory Blueprint) (result : EStateM.Result Error RuleBook Parser) : Prop where
  book : J (Builder.bookAfter result)
  product : ∀ p book', result = .ok p book' → ∃ plan before, factory.Plans plan ∧ J before ∧
    plan.build registry captured before = .ok p book'

namespace Factory

variable {registry : Registry} {captured : Scope} {J : RuleBook → Prop}
  {factory next : Factory Blueprint} {result : EStateM.Result Error RuleBook Parser}

theorem Keeps.error {book : RuleBook} (hbook : J book) (e : Error) :
    factory.Keeps registry captured J (.error e book) :=
  ⟨hbook, by rintro _ _ ⟨⟩⟩

/-- What comes next in a factory has its plans. -/
theorem Keeps.of_next (h : next.Keeps registry captured J result)
    (hplans : ∀ plan, next.Plans plan → factory.Plans plan) :
    factory.Keeps registry captured J result := by
  refine ⟨h.book, fun p book' hresult => ?_⟩
  obtain ⟨plan, before, hplan, hrest⟩ := h.product p book' hresult
  exact ⟨plan, before, hplans plan hplan, hrest⟩

/-- **What building and definitions keep is kept by a factory**, and its product is built last. -/
theorem run_keeps {book : RuleBook}
    (hbuild : ∀ plan book, factory.Plans plan → J book →
      J (Builder.bookAfter (plan.build registry captured book)))
    (hdefine : ∀ plan p book book' (h : Handle), factory.Plans plan →
      plan.build registry captured book = .ok p book' → J book → J book' →
      (book'.slot h.rule).isDefined = false → J (book'.fill h.rule p))
    (hbook : J book) :
    factory.Keeps registry captured J (factory.run registry captured book) := by
  induction factory generalizing book with
  | build plan =>
    exact ⟨hbuild plan book .product hbook, fun p book' hrun => ⟨plan, book, .product, hbook, hrun⟩⟩
  | define name plan next ih =>
    have hbuilt := hbuild plan book .definition hbook
    have hnext : ∀ taken later, J later → (define name plan next).Keeps registry captured J
        ((next taken).run registry captured later) := by
      intro taken later hlater
      refine (ih taken (fun other book hplan => hbuild other book (.defining hplan)) ?_
        hlater).of_next fun _ => .defining
      exact fun other p book book' h hplan => hdefine other p book book' h (.defining hplan)
    rcases run_define_cases name plan next registry captured book with
      ⟨e, book', hfailed, hrun⟩ | ⟨p, book', hplan, ⟨e, hrun⟩ | ⟨h, ⟨_, hrun⟩ | ⟨hnone, hrun⟩⟩⟩
    · rw [hfailed] at hbuilt
      exact hrun ▸ .error hbuilt e
    all_goals
      rw [hplan] at hbuilt
      rw [hrun]
    · exact .error hbuilt e
    · exact hnext false book' hbuilt
    · exact hnext true _ (hdefine plan p book book' h .definition hplan hbook hbuilt hnone)
  | ask name next ih =>
    rcases run_ask_cases name next registry captured book with ⟨e, hrun⟩ | ⟨h, hrun⟩
    · exact hrun ▸ .error hbook e
    · rw [hrun]
      refine (ih (book.isDefined h) (fun other book hplan => hbuild other book (.asking hplan)) ?_
        hbook).of_next fun _ => .asking
      exact fun other p book book' h hplan => hdefine other p book book' h (.asking hplan)

end Factory

/-- What a factory keeps, and what its product has, be it built last or a body without
    handles. -/
theorem Closure.produce_keeps {registry : Registry} {closure : Closure} {J : RuleBook → Prop}
    {P : RuleBook → Parser → Prop} {book : RuleBook}
    (hbuild : ∀ plan book, closure.factory.Plans plan → J book →
      J (Builder.bookAfter (plan.build registry closure.captured book)))
    (hdefine : ∀ plan p book book' (h : Handle), closure.factory.Plans plan →
      plan.build registry closure.captured book = .ok p book' → J book → J book' →
      (book'.slot h.rule).isDefined = false → J (book'.fill h.rule p))
    (hproduct : ∀ plan p book book', closure.factory.Plans plan →
      plan.build registry closure.captured book = .ok p book' → J book → P book' p)
    (hbroken : ∀ book p, J book → p.handles = [] → P book p) (hbook : J book) :
    J (closure.produce registry book).2 ∧
      P (closure.produce registry book).2 (closure.produce registry book).1 := by
  obtain ⟨hafter, hvalue⟩ := closure.factory.run_keeps hbuild hdefine hbook
  rw [← closure.book_produce] at hafter
  refine ⟨hafter, ?_⟩
  unfold produce at hafter ⊢
  rcases hrun : closure.factory.run registry closure.captured book with ⟨p, book'⟩ | ⟨e, book'⟩
  · obtain ⟨plan, before, hplan, hbefore, hbuilt⟩ := hvalue p book' hrun
    exact hproduct plan p before book' hplan hbuilt hbefore
  · rw [hrun] at hafter
    exact hbroken book' _ hafter rfl

end Descent
