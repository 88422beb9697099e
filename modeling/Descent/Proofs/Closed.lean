/-
  Descent/Proofs/Closed.lean
  ==========================
  **Closed rules** — recursive rules whose bodies do without names.

  The rules that one blueprint makes without the help of names are a family
  (`RuleBook.Family`): they hold strongly what was made after them.  None of them is left
  without a body and a factory (`RuleBook.Settled`), except while its factory runs, so nobody
  else can give it a body.  When the factory of one of them runs, the rules that are made for
  it join the family.  So families last, and only grow (`RuleBook.Closed.enduring`).

  A recursive rule can be made anywhere: by a part of a blueprint, in the body of another
  rule, or in the middle of a run, by a factory.  Wherever that is (`Blueprint.MakesClosed`,
  `Factory.MakesClosed`, `Use.MakesClosed`), a rule whose body does without names is made
  together with a family (`Blueprint.MakesClosed.closed`).  What follows, in the rest of the
  blueprint or of the run, leaves the family one (`World.passes_run`).
-/
import Descent.Proofs.Holding
import Descent.Proofs.RuleHistory

namespace Descent

/-! ### Families -/

namespace RuleBook

variable {book later : RuleBook} {roots : List Handle} {registry : Registry} {rule : RuleId}
  {i : Nat} {p : Parser} {F G : Nat → Prop}

/-- The rules of `F` hold strongly what is in `F` and was made after them, and their factories
    do without names and strong handles. -/
structure Family (F : Nat → Prop) (book : RuleBook) : Prop where
  ascends : ∀ rule, F rule.index → ∀ k ∈ (book.slot rule).holds,
    rule.index < k.rule.index ∧ F k.rule.index
  made : ∀ i, F i → i < book.length
  plain : ∀ rule closure, F rule.index → (book.slot rule).factory = some closure →
    closure.factory.Plain false ∧ closure.captured.Held fun _ => False

/-- The rules of `F` have a body or a factory, unless they are gone. -/
def Settled (F : Nat → Prop) (book : RuleBook) : Prop :=
  ∀ rule : RuleId, F rule.index → (book.slot rule).alive = true →
    (book.slot rule).isDefined = true

namespace Family

/-- A family is none the less one if some of its rules are dropped. -/
theorem of_same (hF : book.Family F) (hlength : book.length ≤ later.length)
    (h : ∀ rule, F rule.index → later.slot rule = book.slot rule ∨ later.slot rule = .dropped) :
    later.Family F where
  ascends rule hrule k hk := by
    rcases h rule hrule with hslot | hslot
    · exact hF.ascends rule hrule k (hslot ▸ hk)
    · rw [hslot] at hk
      cases hk
  made i hi := (hF.made i hi).trans_le hlength
  plain rule closure hrule hfactory := by
    rcases h rule hrule with hslot | hslot
    · exact hF.plain rule closure hrule (hslot ▸ hfactory)
    · rw [hslot] at hfactory
      cases hfactory

theorem of_initial (hF : book.Family F) (h : book <+: later) : later.Family F :=
  hF.of_same h.length_le fun _ hrule => .inl (slot_of_initial h (hF.made _ hrule))

theorem fill_of_not (hF : book.Family F) (hrule : ¬ F rule.index) :
    (book.fill rule p).Family F := by
  refine hF.of_same (length_fill book rule p).ge fun other hother => .inl (slot_fill_of_ne ?_ p)
  rintro heq
  exact hrule (heq ▸ hother)

theorem sweep (hF : book.Family F) (roots : List Handle) : (book.sweep roots).Family F :=
  hF.of_same (length_sweep roots book).ge fun rule _ => book.slot_sweepRounds roots _ rule

theorem take (hF : book.Family F) (rule : RuleId) : (book.take rule).Family F where
  ascends other hother k hk := by
    refine hF.ascends other hother k ?_
    by_cases hindex : other.index = rule.index
    · rw [slot_congr hindex, slot_take_self] at hk
      obtain ⟨hstrong, ⟨_, ⟨⟩, _⟩ | hbody⟩ := Slot.mem_holds.mp hk
      rw [slot_congr hindex]
      exact Slot.mem_holds.mpr ⟨hstrong, .inr hbody⟩
    · rwa [slot_take_of_ne hindex] at hk
  made i hi := (hF.made i hi).trans_eq (length_take book rule).symm
  plain other closure hother hfactory := by
    by_cases hindex : other.index = rule.index
    · rw [slot_congr hindex, slot_take_self] at hfactory
      cases hfactory
    · rw [slot_take_of_ne hindex] at hfactory
      exact hF.plain other closure hother hfactory

/-- A rule of a family takes a body that holds strongly what is in the family and was made
    after the rule. -/
theorem fill (hF : book.Family F)
    (hp : p.Held fun k => rule.index < k.rule.index ∧ F k.rule.index) :
    (book.fill rule p).Family F where
  ascends other hother k hk := by
    have hholds : (book.fill rule p).Holds other.index k.rule.index := holds_iff.mpr ⟨k, hk, rfl⟩
    rcases hholds.of_fill with ⟨hindex, l, hl, hstrong, hsame⟩ | hholds
    · rw [hindex, ← hsame]
      exact hp l hl hstrong
    · obtain ⟨l, hl, hsame⟩ := holds_iff.mp hholds
      rw [← hsame]
      exact hF.ascends other hother l hl
  made i hi := (hF.made i hi).trans_eq (length_fill book rule p).symm
  plain other closure hother hfactory := by
    refine hF.plain other closure hother ?_
    by_cases hindex : other.index = rule.index
    · rw [slot_congr hindex, slot_fill_self, Slot.factory_fill] at hfactory
      rw [slot_congr hindex]
      exact hfactory
    · rwa [slot_fill_of_ne hindex] at hfactory

theorem union (hF : book.Family F) (hG : book.Family G) : book.Family fun i => F i ∨ G i where
  ascends rule hrule k hk := by
    rcases hrule with hrule | hrule
    · exact (hF.ascends rule hrule k hk).imp_right .inl
    · exact (hG.ascends rule hrule k hk).imp_right .inr
  made i hi := hi.elim (hF.made i) (hG.made i)
  plain rule closure hrule hfactory :=
    hrule.elim (hF.plain rule closure · hfactory) (hG.plain rule closure · hfactory)

end Family

namespace Settled

theorem of_same (hF : book.Settled F)
    (h : ∀ rule, F rule.index → later.slot rule = book.slot rule ∨ later.slot rule = .dropped) :
    later.Settled F := by
  intro rule hrule halive
  rcases h rule hrule with hslot | hslot
  · rw [hslot] at halive ⊢
    exact hF rule hrule halive
  · rw [hslot] at halive
    cases halive

theorem fill (hF : book.Settled F) (rule : RuleId) (p : Parser) : (book.fill rule p).Settled F := by
  intro other hother halive
  rw [alive_fill] at halive
  by_cases hindex : other.index = rule.index
  · rw [slot_congr hindex] at halive ⊢
    rw [slot_fill_self]
    exact Slot.isDefined_of_body (Slot.body_fill halive)
  · rw [slot_fill_of_ne hindex]
    exact hF other hother halive

/-- A rule that takes a body is none of them. -/
theorem not_mem (hF : book.Settled F) (halive : (book.slot rule).alive = true)
    (hnone : (book.slot rule).isDefined = false) : ¬ F rule.index := by
  intro hrule
  rw [hF rule hrule halive] at hnone
  cases hnone

end Settled

section Makes

variable {α : Type} {Q : Nat → α → Prop} {a : α} {book' : RuleBook}

/-- **What one blueprint makes is a family**, if it does without names. -/
theorem Family.of_makes (hmakes : Builder.Makes false (fun _ => False) Q book (.ok a book')) :
    book'.Family fun i => book.length ≤ i ∧ i < book'.length where
  ascends rule hrule k hk := by
    obtain ⟨hge, hlt⟩ := hrule
    have hget : book'[rule.index]? = some (book'.slot rule) := by
      rw [slot_eq_getElem hlt]
      exact List.getElem?_eq_getElem hlt
    obtain ⟨hless, hstop⟩ := ((hmakes.made _ _ hge hget).holds k hk).resolve_left id
    exact ⟨hless, hge.trans (Nat.le_of_lt hless), hstop⟩
  made i hi := hi.2
  plain rule closure hrule hfactory := by
    have halive := Slot.alive_of_isDefined (Slot.isDefined_of_factory hfactory)
    exact (hmakes.made _ _ hrule.1 (getElem?_of_alive halive)).plain closure hfactory

theorem Settled.of_makes (hmakes : Builder.Makes false (fun _ => False) Q book (.ok a book')) :
    book'.Settled fun i => book.length ≤ i ∧ i < book'.length :=
  fun _ hrule halive => hmakes.defined a book' rfl _ _ hrule.1 (getElem?_of_alive halive)

end Makes

/-- The rule is one of a family. -/
def Closed (i : Nat) (book : RuleBook) : Prop := ∃ F, F i ∧ book.Family F ∧ book.Settled F

/-- The rules of `F` are in a family, in which nothing but the rule whose factory is running may
    be without a body and a factory. -/
def Opened (F : Nat → Prop) (running : Nat) (book : RuleBook) : Prop :=
  ∃ G, (∀ i, F i → G i) ∧ book.Family G ∧ book.Settled fun i => G i ∧ i ≠ running

/-- What the parser holds has joined the family, behind the rule whose factory is running. -/
def Joined (F : Nat → Prop) (running : Nat) (book : RuleBook) (p : Parser) : Prop :=
  ∃ G, (∀ i, F i → G i) ∧ book.Family G ∧ book.Settled (fun i => G i ∧ i ≠ running) ∧
    p.Held fun k => running < k.rule.index ∧ G k.rule.index

namespace Opened

variable {running : RuleId} {plan : Blueprint} {captured : Scope} {book' : RuleBook} {h : Handle}

theorem take (hF : book.Family F) (hsettled : book.Settled F) :
    (book.take rule).Opened F rule.index := by
  refine ⟨F, fun _ => id, hF.take rule, fun other hother halive => ?_⟩
  rw [slot_take_of_ne hother.2] at halive ⊢
  exact hsettled other hother.1 halive

/-- What is built without names joins the family. -/
theorem joined (hopened : book.Opened F running.index) (hrunning : F running.index)
    (hplan : plan.Plain false) (hcaptured : captured.Held fun _ => False)
    (hbuild : plan.build registry captured book = .ok p book') :
    book'.Joined F running.index p := by
  obtain ⟨G, hFG, hG, hsettled⟩ := hopened
  have hmakes := hplan.makes registry (D := fun _ => False) nofun
    (hcaptured.gives _) book
  rw [hbuild] at hmakes
  have hkept : book <+: book' := hmakes.kept
  refine ⟨_, fun i hi => .inl (hFG i hi), (hG.of_initial hkept).union (.of_makes hmakes), ?_, ?_⟩
  · rintro rule ⟨hrule | hrule, hne⟩ halive
    · rw [slot_of_initial hkept (hG.made _ hrule)] at halive ⊢
      exact hsettled rule ⟨hrule, hne⟩ halive
    · exact Settled.of_makes hmakes rule hrule halive
  · intro k hk hstrong
    obtain ⟨hge, hlt⟩ := (hmakes.value p book' rfl k hk hstrong).resolve_left id
    exact ⟨(hG.made _ (hFG _ hrunning)).trans_le hge, .inr ⟨hge, hlt⟩⟩

theorem of_initial (hopened : book.Opened F running.index) (h : book <+: later) :
    later.Opened F running.index := by
  obtain ⟨G, hFG, hG, hsettled⟩ := hopened
  refine ⟨G, hFG, hG.of_initial h, hsettled.of_same fun rule hrule => .inl ?_⟩
  exact slot_of_initial h (hG.made _ hrule.1)

/-- The factory of a rule of a family gives a body to that rule or to one outside. -/
theorem define (hopened : book.Opened F running.index) (hrunning : F running.index)
    (hplan : plan.Plain false) (hcaptured : captured.Held fun _ => False)
    (hbuild : plan.build registry captured book = .ok p book')
    (hnone : (book'.slot h.rule).isDefined = false) :
    (book'.fill h.rule p).Opened F running.index := by
  obtain ⟨G, hFG, hG, hsettled, hp⟩ := hopened.joined hrunning hplan hcaptured hbuild
  refine ⟨G, hFG, ?_, hsettled.fill h.rule p⟩
  rcases halive : (book'.slot h.rule).alive with _ | _
  · rwa [fill_of_not_alive halive]
  · by_cases hindex : h.rule.index = running.index
    · rw [← hindex] at hp
      exact hG.fill hp
    · exact hG.fill_of_not fun hrule => hsettled.not_mem halive hnone ⟨hrule, hindex⟩

end Opened

namespace Closed

theorem sweep (hi : Closed i book) (roots : List Handle) : Closed i (book.sweep roots) := by
  obtain ⟨F, hFi, hF, hsettled⟩ := hi
  exact ⟨F, hFi, hF.sweep roots, hsettled.of_same fun rule _ => book.slot_sweepRounds roots _ rule⟩

theorem of_initial (hi : Closed i book) (h : book <+: later) : Closed i later := by
  obtain ⟨F, hFi, hF, hsettled⟩ := hi
  refine ⟨F, hFi, hF.of_initial h, hsettled.of_same fun rule hrule => .inl ?_⟩
  exact slot_of_initial h (hF.made _ hrule)

/-- A rule without a factory is not one of the family, or has a body; it may take any. -/
theorem fill (hi : Closed i book) (hnone : (book.slot rule).factory = none) (p : Parser) :
    Closed i (book.fill rule p) := by
  obtain ⟨F, hFi, hF, hsettled⟩ := hi
  refine ⟨F, hFi, ?_, hsettled.fill rule p⟩
  rcases halive : (book.slot rule).alive with _ | _
  · rwa [fill_of_not_alive halive]
  · rcases hbody : (book.slot rule).body with _ | body
    · exact hF.fill_of_not
        (hsettled.not_mem halive (Slot.isDefined_eq_false_iff.mpr ⟨hnone, hbody⟩))
    · rwa [fill_of_body hbody]

/-- The factory of a rule of a family runs. -/
theorem develop_of_mem {w : World} {closure : Closure} (hi : F i) (hF : w.book.Family F)
    (hsettled : w.book.Settled F) (hrule : F rule.index)
    (hfactory : (w.book.slot rule).factory = some closure) :
    Closed i (w.develop rule closure).2.book := by
  obtain ⟨hplain, hcaptured⟩ := hF.plain rule closure hrule hfactory
  obtain ⟨_, G, hFG, hG, hsettled, hp⟩ := closure.produce_keeps
    (J := Opened F rule.index) (P := Joined F rule.index)
    (fun plan book _ hJ => hJ.of_initial (prefix_build plan w.registry closure.captured book))
    (fun plan p book book' h hplan hbuild hJ _ hnone =>
      hJ.define hrule (hplain plan hplan) hcaptured hbuild hnone)
    (fun plan p book book' hplan hbuild hJ =>
      hJ.joined hrule (hplain plan hplan) hcaptured hbuild)
    (fun book p ⟨G, hFG, hG, hsettled⟩ hnone => ⟨G, hFG, hG, hsettled, .of_handles hnone⟩)
    (Opened.take hF hsettled)
  rw [World.book_develop]
  refine ⟨G, hFG i hi, hG.fill hp, fun other hother halive => ?_⟩
  by_cases hindex : other.index = rule.index
  · rw [alive_fill, slot_congr hindex] at halive
    rw [slot_congr hindex, slot_fill_self]
    exact Slot.isDefined_of_body (Slot.body_fill halive)
  · exact (hsettled.fill rule _) other ⟨hother, hindex⟩ halive

/-- **Families last** when a rule is resolved. -/
theorem resolve {w : World} (hi : Closed i w.book) (h : Handle) :
    Closed i (w.resolve h).2.book := by
  obtain ⟨F, hFi, hF, hsettled⟩ := hi
  rcases w.resolve_cases h with ⟨_, hnone⟩ | ⟨_, _, hsome⟩ | ⟨closure, _, hfactory, hrun⟩
  · rw [hnone]
    exact ⟨F, hFi, hF, hsettled⟩
  · rw [hsome]
    exact ⟨F, hFi, hF, hsettled⟩
  · rw [hrun]
    by_cases hrule : F h.rule.index
    · exact develop_of_mem hFi hF hsettled hrule hfactory
    · -- The rules of the family are settled, so the factory changes none of them.
      have hsame : ∀ rule : RuleId, F rule.index →
          (w.develop h.rule closure).2.book.slot rule = w.book.slot rule := by
        intro rule hmem
        have hne : rule.index ≠ h.rule.index := fun heq => hrule (heq ▸ hmem)
        rcases World.develop_of_ne hne (hF.made _ hmem) with hslot | ⟨hundefined, p, hslot⟩
        · exact hslot
        · rcases halive : (w.book.slot rule).alive with _ | _
          · rw [hslot, Slot.fill_of_dropped halive]
          · exact absurd hmem (hsettled.not_mem halive hundefined)
      have hlength := w.length_le_resolve h
      rw [hrun] at hlength
      exact ⟨F, hFi, hF.of_same hlength fun rule hmem => .inl (hsame rule hmem),
        hsettled.of_same fun rule hmem => .inl (hsame rule hmem)⟩

theorem enduring (registry : Registry) (i : Nat) : Enduring registry (Closed i) where
  declared _ hi := hi.of_initial (List.prefix_append _ _)
  deferred _ _ _ _ hi := hi.of_initial (List.prefix_append _ _)
  built plan book _ hi := hi.of_initial (prefix_build plan registry [] book)
  given _ p _ _ _ _ _ hnone hi := hi.fill (Slot.isDefined_eq_false_iff.mp hnone).1 p
  resolved h _ _ hi := hi.resolve h

end Closed

end RuleBook

/-! ### Parts of blueprints -/

namespace Blueprint

open Builder

/-- The parts of a blueprint in the order in which they are built.  The body of a rule is
    none of them, since it is built in a scope of its own or later. -/
def parts : Blueprint → List Blueprint
  | .unary _ p => [p]
  | .binary _ p q => [p, q]
  | .ternary _ p q r => [p, q, r]
  | .switch p branches other => p :: (branches.map (·.2) ++ [other])
  | _ => []

/-- Building the blueprint makes a recursive rule at the place, whose body does without names
    and with no strong handle from its scope. -/
inductive MakesClosed (registry : Registry) : Scope → Blueprint → RuleBook → Nat → Prop
  | here {scope : Scope} {name : String} {body : Blueprint} {book book' : RuleBook} {p : Parser}
    (hclosed : body.Plain false)
    (hscope : scope.Gives (fun _ => False) (recursive name body).mentions)
    (hbuilt : body.build registry ((name, ⟨book.nextId name, false⟩) :: scope)
      (book.add .undefined) = .ok p book') :
    MakesClosed registry scope (.recursive name body) book book.length
  | inside {scope : Scope} {name : String} {body : Blueprint} {book : RuleBook} {i : Nat}
    (hbody : MakesClosed registry ((name, ⟨book.nextId name, false⟩) :: scope) body
      (book.add .undefined) i) :
    MakesClosed registry scope (.recursive name body) book i
  | part {scope : Scope} {plan part : Blueprint} {earlier further : List Blueprint}
    {built : List Parser} {book book' : RuleBook} {i : Nat}
    (hparts : plan.parts = earlier ++ part :: further)
    (hearlier : earlier.mapM (build registry scope) book = .ok built book')
    (hpart : MakesClosed registry scope part book' i) : MakesClosed registry scope plan book i

variable {registry : Registry} {scope : Scope} {book book' : RuleBook} {i : Nat}

theorem bookAfter_bind {α β γ : Type} {step : Builder α} {next : α → Builder β}
    {next' : α → Builder γ}
    (h : ∀ a book, bookAfter (next a book) = bookAfter (next' a book)) (book : RuleBook) :
    bookAfter ((step >>= next) book) = bookAfter ((step >>= next') book) := by
  simp only [Bind.bind, EStateM.bind]
  rcases step book with ⟨a, book'⟩ | ⟨e, book'⟩
  · exact h a book'
  · rfl

theorem buildBranches_eq (branches : List (String × Blueprint)) :
    buildBranches registry scope branches = do
      let built ← (branches.map (·.2)).mapM (build registry scope)
      return (branches.map (·.1)).zip built := by
  induction branches with
  | nil => simp [buildBranches]
  | cons branch rest ih =>
    obtain ⟨text, plan⟩ := branch
    simp [buildBranches, ih]

/-- A blueprint with parts makes the rules that its parts make. -/
theorem bookAfter_parts {plan : Blueprint} (hparts : plan.parts ≠ []) (book : RuleBook) :
    bookAfter (plan.build registry scope book) =
      bookAfter (plan.parts.mapM (build registry scope) book) := by
  cases plan with
  | unary f p =>
    simp only [build, parts, List.mapM_cons, List.mapM_nil, pure_bind]
    refine bookAfter_bind (fun _ _ => ?_) book
    rfl
  | binary f p q =>
    simp only [build, parts, List.mapM_cons, List.mapM_nil, pure_bind, bind_assoc]
    refine bookAfter_bind (fun _ => bookAfter_bind fun _ _ => ?_) book
    rfl
  | ternary f p q r =>
    simp only [build, parts, List.mapM_cons, List.mapM_nil, pure_bind, bind_assoc]
    refine bookAfter_bind (fun _ => bookAfter_bind fun _ => bookAfter_bind fun _ _ => ?_) book
    rfl
  | switch p branches other =>
    simp only [build, parts, List.mapM_cons, List.mapM_append, List.mapM_nil, buildBranches_eq,
      pure_bind, bind_assoc]
    refine bookAfter_bind (fun _ => bookAfter_bind fun _ => bookAfter_bind fun _ _ => ?_) book
    rfl
  | _ => exact absurd rfl hparts

theorem adds_mapM (registry : Registry) (scope : Scope) (plans : List Blueprint) :
    ∃ n, Adds n (plans.mapM (build registry scope)) := by
  induction plans with
  | nil => exact ⟨0, .pure []⟩
  | cons plan rest ih =>
    obtain ⟨n, hrest⟩ := ih
    rw [List.mapM_cons]
    exact ⟨_, (adds_build registry scope plan).bind fun _ => hrest.andThen⟩

/-- A step that only adds rules takes none back. -/
theorem prefix_bind {α β : Type} {n : Nat} {step : Builder α} {next : α → Builder β}
    (hnext : ∀ a, Adds n (next a)) (book : RuleBook) :
    bookAfter (step book) <+: bookAfter ((step >>= next) book) := by
  simp only [Bind.bind, EStateM.bind]
  rcases step book with ⟨a, book'⟩ | ⟨e, book'⟩
  · obtain ⟨added, _, hbook⟩ := hnext a book'
    exact ⟨added, hbook.symm⟩
  · exact List.prefix_rfl

/-- Behind a part, further ones only add rules. -/
theorem prefix_parts {part : Blueprint} {earlier further : List Blueprint} {built : List Parser}
    (hearlier : earlier.mapM (build registry scope) book = .ok built book') :
    bookAfter (part.build registry scope book') <+:
      bookAfter ((earlier ++ part :: further).mapM (build registry scope) book) := by
  have hpast : (earlier ++ part :: further).mapM (build registry scope) book =
      ((part :: further).mapM (build registry scope) >>= fun more =>
        pure (built ++ more)) book' := by
    rw [List.mapM_append]
    simp only [Bind.bind, EStateM.bind, hearlier]
  obtain ⟨n, hfurther⟩ := adds_mapM registry scope further
  rw [hpast, List.mapM_cons, bind_assoc]
  exact prefix_bind (fun _ => hfurther.andThen.andThen) book'

theorem build_recursive (registry : Registry) (scope : Scope) (name : String) (body : Blueprint)
    (book : RuleBook) : (recursive name body).build registry scope book =
      match body.build registry ((name, ⟨book.nextId name, false⟩) :: scope)
          (book.add .undefined) with
      | .ok p book' => .ok (.rule ⟨book.nextId name, true⟩)
          (book'.fill (book.nextId name) p)
      | .error e book' => .error e book' := by
  simp only [build, Bind.bind, EStateM.bind, recursive_apply]
  rcases body.build registry ((name, ⟨book.nextId name, false⟩) :: scope) (book.add .undefined)
    with _ | _
  · rfl
  · rfl

/-- **A closed rule is one of a family**, wherever in a blueprint it is made. -/
theorem MakesClosed.closed {plan : Blueprint} (h : plan.MakesClosed registry scope book i) :
    (bookAfter (plan.build registry scope book)).Closed i := by
  induction h with
  | @here scope name body book book' p hclosed hscope hbuilt =>
    have hmakes := (Plain.recursive name hclosed).makes registry nofun hscope book
    have hprefix := RuleBook.prefix_build body registry ((name, ⟨book.nextId name, false⟩) :: scope)
      (book.add .undefined)
    rw [hbuilt] at hprefix
    rw [build_recursive, hbuilt] at hmakes ⊢
    have hlt : book.length + 1 ≤ book'.length :=
      (RuleBook.length_add book _).symm.trans_le hprefix.length_le
    refine ⟨_, ⟨Nat.le_refl _, ?_⟩, .of_makes hmakes, .of_makes hmakes⟩
    exact hlt.trans_eq (RuleBook.length_fill book' _ p).symm
  | @inside scope name body book i _ ih =>
    have hprefix := RuleBook.prefix_build body registry ((name, ⟨book.nextId name, false⟩) :: scope)
      (book.add .undefined)
    rw [build_recursive]
    rcases hrun : body.build registry ((name, ⟨book.nextId name, false⟩) :: scope)
      (book.add .undefined) with ⟨p, book'⟩ | ⟨e, book'⟩
    · rw [hrun] at ih hprefix
      -- The rule around has had no body until now, so it is not in the family.
      refine RuleBook.Closed.fill ih ?_ p
      have hlt : (book.nextId name).index < (book.add .undefined).length :=
        (Nat.lt_succ_self _).trans_eq (RuleBook.length_add book _).symm
      rw [RuleBook.slot_of_initial hprefix hlt]
      rcases book.slot_add .undefined (book.nextId name) with hslot | ⟨_, hslot⟩
      · rw [hslot, RuleBook.slot_of_length_le (Nat.le_refl _)]
        rfl
      · rw [hslot]
        rfl
    · rw [hrun] at ih
      exact ih
  | @part scope plan part earlier further built book book' i hparts hearlier _ ih =>
    have hsome : plan.parts ≠ [] := by simp [hparts]
    rw [bookAfter_parts hsome, hparts]
    exact ih.of_initial (prefix_parts hearlier)

end Blueprint

/-! ### Factories -/

/-- The factory makes a recursive rule at the place, whose body does without names and strong
    handles, for its product or for a definition. -/
inductive Factory.MakesClosed (registry : Registry) (captured : Scope) :
    Factory Blueprint → RuleBook → Nat → Prop
  | product {plan : Blueprint} {book : RuleBook} {i : Nat}
    (hplan : plan.MakesClosed registry captured book i) :
    MakesClosed registry captured (.build plan) book i
  | definition {name : String} {plan : Blueprint} {next : Bool → Factory Blueprint}
    {book : RuleBook} {i : Nat} (hplan : plan.MakesClosed registry captured book i) :
    MakesClosed registry captured (.define name plan next) book i
  | defining {name : String} {plan : Blueprint} {next : Bool → Factory Blueprint}
    {book book' later : RuleBook} {p : Parser} {h : Handle} {taken : Bool} {i : Nat}
    (hplan : plan.build registry captured book = .ok p book')
    (htarget : Builder.target registry captured name book' = .ok h book')
    (hdefine : Builder.define h p book' = .ok taken later)
    (hnext : MakesClosed registry captured (next taken) later i) :
    MakesClosed registry captured (.define name plan next) book i
  | asking {name : String} {next : Bool → Factory Blueprint} {book : RuleBook} {h : Handle}
    {i : Nat} (htarget : Builder.target registry captured name book = .ok h book)
    (hnext : MakesClosed registry captured (next (book.isDefined h)) book i) :
    MakesClosed registry captured (.ask name next) book i

namespace Factory

variable {registry : Registry} {captured : Scope} {factory : Factory Blueprint}
  {book : RuleBook} {i : Nat}

/-- A factory leaves a family one that does not contain its rule. -/
theorem closed_run (factory : Factory Blueprint) (hbook : book.Closed i) :
    (Builder.bookAfter (factory.run registry captured book)).Closed i :=
  (factory.run_keeps
    (fun plan book _ hi => hi.of_initial (RuleBook.prefix_build plan registry captured book))
    (fun _ p _ _ _ _ _ _ hi hnone => hi.fill (Slot.isDefined_eq_false_iff.mp hnone).1 p) hbook).1

/-- **A closed rule that a factory makes is one of a family**, when it has come to its end. -/
theorem MakesClosed.closed (h : factory.MakesClosed registry captured book i) :
    (Builder.bookAfter (factory.run registry captured book)).Closed i := by
  induction h with
  | product hplan => exact hplan.closed
  | @definition name plan next book i hplan =>
    have hclosed := hplan.closed
    rcases run_define_cases name plan next registry captured book with
      ⟨e, book', hfailed, hrun⟩ | ⟨p, book', hbuild, ⟨e, hrun⟩ | ⟨h, ⟨_, hrun⟩ | ⟨hnone, hrun⟩⟩⟩
    · rw [hfailed] at hclosed
      rw [hrun]
      exact hclosed
    all_goals
      rw [hbuild] at hclosed
      rw [hrun]
    · exact hclosed
    · exact closed_run (next false) hclosed
    · exact closed_run (next true) (hclosed.fill (Slot.isDefined_eq_false_iff.mp hnone).1 p)
  | @defining name plan next book book' later p h taken i hplan htarget hdefine _ ih =>
    simpa only [run, bind, EStateM.bind, hplan, htarget, hdefine] using ih
  | @asking name next book h i htarget _ ih =>
    have hrun : (ask name next).run registry captured book =
        (next (book.isDefined h)).run registry captured book := by
      simp only [run, bind, EStateM.bind, htarget]
      rfl
    rw [hrun]
    exact ih

end Factory

/-! ### Uses -/

/-- The use runs the factory of its rule, and that makes a closed rule at the place. -/
def Use.MakesClosed (use : Use) (i : Nat) : Prop :=
  ∃ closure, (use.world.book.slot use.handle.rule).body = none ∧
    (use.world.book.slot use.handle.rule).factory = some closure ∧
    closure.factory.MakesClosed use.world.registry closure.captured
      (use.world.book.take use.handle.rule) i

namespace World

variable {registry : Registry} {J : RuleBook → Prop} {n : Nat} {h : Handle} {c : Cursor}
  {w w' : World} {use : Use}

/-- The use is made in a world that keeps the property, and what its rule leaves when it is
    resolved is kept to the end. -/
structure Passes (registry : Registry) (J : RuleBook → Prop) (use : Use)
    (outcome : Option (Reply × World)) : Prop where
  before : use.world.Keeps registry J
  after : ∀ K, RuleBook.Enduring registry K → (use.world.resolve use.handle).2.Keeps registry K →
    ∀ r w', outcome = some (r, w') → w'.Keeps registry K

theorem passes_hold (hJ : RuleBook.Enduring registry J)
    (hcall : ∀ k d w, Keeps registry J w → use ∈ callUses n k d w →
      Passes registry J use (call n k d w))
    (t : Dialogue) (hw : w.Keeps registry J) (huse : use ∈ t.uses (call n) (callUses n) w) :
    Passes registry J use (t.hold (call n) w) := by
  induction t generalizing w with
  | finish r => cases huse
  | endless => cases huse
  | started p d next ih => exact ih hw huse
  | fellShort stop next ih =>
    have hnoted : (w.note (.fellShort stop)).Keeps registry J := hw
    exact ih hnoted huse
  | tally label next ih =>
    have htallied : (w.tally label).Keeps registry J := hw
    exact ih htallied huse
  | ask k d next ih =>
    rcases hask : call n k d w with _ | ⟨r, w₁⟩
    · rw [Dialogue.uses_ask_of_none hask] at huse
      rw [Dialogue.hold_ask_of_none hask, ← hask]
      exact hcall k d w hw huse
    · rcases hr : r.defect? with _ | e
      · rw [Dialogue.uses_ask_of_reply hask hr] at huse
        rw [Dialogue.hold_ask_of_reply hask hr]
        rcases List.mem_append.mp huse with huse | huse
        · obtain ⟨hbefore, hafter⟩ := hcall k d w hw huse
          refine ⟨hbefore, fun K hK hresolved r' w' hnext => ?_⟩
          have hw₁ : w₁.Keeps registry K := hafter K hK hresolved r w₁ hask
          exact keeps_hold (fun k d _ _ _ => keeps_call hK n k d) (next r) hw₁ hnext
        · exact ih r (keeps_call hJ n k d hw hask) huse
      · obtain rfl := Reply.eq_defect hr
        rw [Dialogue.uses_ask_of_defect hask] at huse
        rw [Dialogue.hold_ask_of_defect hask, ← hask]
        exact hcall k d w hw huse

theorem passes_call (hJ : RuleBook.Enduring registry J) (n : Nat) (h : Handle) (c : Cursor)
    (hw : w.Keeps registry J) (huse : use ∈ callUses n h c w) :
    Passes registry J use (call n h c w) := by
  induction n generalizing h c w with
  | zero => cases huse
  | succ n ih =>
    -- From the rule on, the first use is the whole expansion.
    have hfirst : Passes registry J ⟨h, c, w⟩ (call (n + 1) h c w) :=
      ⟨hw, fun K hK hresolved r w' hcall =>
        keeps_expansion (fun k d _ _ _ => keeps_call hK n k d) hresolved hcall⟩
    rcases hbody : (w.resolve h).1 with _ | body
    · simp only [callUses, hbody, List.mem_singleton] at huse
      exact huse ▸ hfirst
    · rcases hlookup : w.guard.lookup? h.rule c.offset with _ | _ | memo
      · simp only [callUses, hbody, hlookup] at huse
        rcases List.mem_cons.mp huse with rfl | hinner
        · exact hfirst
        · have hopened : (w.opened h c).Keeps registry J := keeps_resolve hJ h hw
          obtain ⟨hbefore, hafter⟩ :=
            passes_hold hJ (fun k d _ hu => ih k d hu) (body.dialogue c) hopened hinner
          refine ⟨hbefore, fun K hK hresolved r w' hcall => ?_⟩
          rw [call_of_resolved hbody, hlookup] at hcall
          rcases hrun : body.matcher (call n) c (w.opened h c) with _ | ⟨r₁, w₁⟩
          · simp only [hrun] at hcall
            cases hcall
          · simp only [hrun] at hcall
            cases hcall
            rw [Parser.matcher_eq_hold] at hrun
            have hbody : w₁.Keeps registry K := hafter K hK hresolved r w₁ hrun
            exact hbody
      · simp only [callUses, hbody, hlookup, List.mem_singleton] at huse
        exact huse ▸ hfirst
      · simp only [callUses, hbody, hlookup, List.mem_singleton] at huse
        exact huse ▸ hfirst

/-- **What a use leaves is kept to the end of the run.** -/
theorem passes_run {p : Parser} (hJ : RuleBook.Enduring registry J) (hw : w.Keeps registry J)
    (huse : use ∈ w.runUses p c) : Passes registry J use (run p c w) := by
  have hpasses := passes_hold hJ (fun k d _ hu => passes_call hJ _ k d hu) (p.dialogue c) hw huse
  rw [← Parser.matcher_eq_hold] at hpasses
  exact hpasses

/-- A use that makes a closed rule leaves a family. -/
theorem closed_resolve {i : Nat} (hmakes : use.MakesClosed i) :
    (use.world.resolve use.handle).2.book.Closed i := by
  obtain ⟨closure, hbody, hfactory, hmakes⟩ := hmakes
  have hclosed := hmakes.closed
  rw [← closure.book_produce] at hclosed
  rw [resolve_of_factory hbody hfactory, book_develop]
  exact hclosed.fill (filled_produce hbody hfactory).factory_eq _

/-- **A closed rule that a run makes is one of a family** behind the run. -/
theorem closed_run {p : Parser} {r : Reply} {i : Nat}
    (hw : w.Keeps registry (RuleBook.Tidy registry.roots)) (huse : use ∈ w.runUses p c)
    (hmakes : use.MakesClosed i) (hrun : run p c w = some (r, w')) : w'.book.Closed i := by
  obtain ⟨hbefore, hafter⟩ := passes_run (RuleBook.Tidy.enduring registry) hw huse
  have hregistry := (use.world.registry_resolve use.handle).trans hbefore.1
  have hresolved := closed_resolve hmakes
  exact (hafter _ (RuleBook.Closed.enduring registry i) ⟨hregistry, hresolved⟩ r w' hrun).2

end World

end Descent
