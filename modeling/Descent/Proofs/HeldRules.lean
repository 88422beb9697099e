/-
  Descent/Proofs/HeldRules.lean
  =============================
  **What commands hold** — names hold rules, and commands change what is kept under them.

  A command may build a blueprint, then run or store or define what was built, and change
  what is kept under names.  Whatever books keep, it keeps, from behind the building on;
  and a handle or parser that it keeps under a name has its strong handles from there
  (`Session.minds_perform`).  Then the rules are dropped that nothing holds.

  Between two commands, therefore, exactly those rules live that are held
  (`Session.Orderly`), and a rule that is closed remains so (`Session.closed_perform`).
-/
import Descent.Proofs.Closed
import Descent.Proofs.WriteOnce

namespace Descent

def Command.plan? : Command → Option Blueprint
  | .makeRecursive name body => some (.recursive name body)
  | .define _ plan | .store _ plan | .parse plan _ _ | .run plan _ _ _ => some plan
  | _ => none

/-- What the command has built, now or by a factory later, has no strong handles but those kept
    under names and captured. -/
structure Command.Plain (command : Command) : Prop where
  plan : ∀ plan, command.plan? = some plan → plan.Plain true
  factory : ∀ name captures factory, command = .defer name captures factory →
    factory.Plain true

/-! ### One command -/

namespace World

variable {registry : Registry} {J : RuleBook → Prop} {w w' : World}

theorem Keeps.of_same (hw : w.Keeps registry J) (hsame : SameRules w w') :
    w'.Keeps registry J :=
  ⟨hsame.registry.trans hw.1, hsame.book ▸ hw.2⟩

end World

namespace Session

variable {J : RuleBook → Prop} {s s' : Session} {command : Command} {α : Type}

/-- What the book keeps is kept, and strong handles under names were there before or are of
    rules that live. -/
structure Minds (J : RuleBook → Prop) (s s' : Session) : Prop where
  book : J s'.world.book
  roots : ∀ k ∈ s'.world.registry.roots, k.strong = true →
    k ∈ s.world.registry.roots ∨ s'.world.book.Lives k.rule.index

namespace Minds

theorem of_same (hbook : J s'.world.book) (hregistry : s'.world.registry = s.world.registry) :
    Minds J s s' :=
  ⟨hbook, fun _ hk _ => .inl (hregistry ▸ hk)⟩

theorem self (hbook : J s.world.book) : Minds J s s := .of_same hbook rfl

theorem of_keeps (hs : s'.world.Keeps s.world.registry J) : Minds J s s' := .of_same hs.2 hs.1

theorem of_fewer (hbook : J s'.world.book)
    (hroots : ∀ k ∈ s'.world.registry.roots, k ∈ s.world.registry.roots) : Minds J s s' :=
  ⟨hbook, fun k hk _ => .inl (hroots k hk)⟩

theorem keepHandle (hs : Minds J s s') (name : String) {h : Handle}
    (hh : h.strong = true → h ∈ s.world.registry.roots ∨ s'.world.book.Lives h.rule.index) :
    Minds J s (s'.keepHandle name h) := by
  refine ⟨hs.book, fun k hk hstrong => ?_⟩
  rcases List.mem_append.mp hk with hk | hk
  · obtain ⟨entry, hentry, rfl⟩ := List.mem_map.mp hk
    rcases List.mem_cons.mp hentry with rfl | hentry
    · exact hh hstrong
    · refine hs.roots _ (List.mem_append_left _ (List.mem_map_of_mem ?_)) hstrong
      exact (List.mem_filter.mp hentry).1
  · exact hs.roots k (List.mem_append_right _ hk) hstrong

theorem keepParser (hs : Minds J s s') (name : String) {p : Parser}
    (hp : p.Held fun k => k ∈ s.world.registry.roots ∨ s'.world.book.Lives k.rule.index) :
    Minds J s (s'.withRegistry fun r => { r with parsers := keepUnder name p r.parsers }) := by
  refine ⟨hs.book, fun k hk hstrong => ?_⟩
  rcases List.mem_append.mp hk with hk | hk
  · exact hs.roots k (List.mem_append_left _ hk) hstrong
  · obtain ⟨entry, hentry, hk⟩ := List.mem_flatMap.mp hk
    rcases List.mem_cons.mp hentry with rfl | hentry
    · exact hp k hk hstrong
    · have hentry := (List.mem_filter.mp hentry).1
      refine hs.roots k (List.mem_append_right _ ?_) hstrong
      exact List.mem_flatMap.mpr ⟨entry, hentry, hk⟩

theorem building {builder : Builder α} {andThen : α → Session → Answer × Session}
    (hbuilt : J (Builder.bookAfter (builder s.world.book)))
    (hthen : ∀ a book, builder s.world.book = .ok a book → J book →
      Minds J s (andThen a (s.withWorld { s.world with book })).2) :
    Minds J s (s.building builder andThen).2 := by
  unfold Session.building
  rcases hrun : builder s.world.book with ⟨a, book⟩ | ⟨e, book⟩
  · rw [hrun] at hbuilt
    exact hthen a book hrun hbuilt
  · rw [hrun] at hbuilt
    exact .of_same hbuilt rfl

theorem withHandle {name : String} {use : Handle → Answer × Session} (hs : Minds J s s')
    (huse : ∀ h, s'.world.registry.handles.lookup name = some h → Minds J s (use h).2) :
    Minds J s (s'.withHandle name use).2 := by
  unfold Session.withHandle
  split
  · rename_i h hlookup
    exact huse h hlookup
  · exact hs

end Minds

def bookBuilt (s : Session) (command : Command) : RuleBook :=
  match command.plan? with
  | some plan => Builder.bookAfter (plan.build s.world.registry [] s.world.book)
  | none => s.world.book

theorem keeps_bookBuilt (hJ : RuleBook.Enduring s.world.registry J) (hplain : command.Plain)
    (hbook : J s.world.book) : J (s.bookBuilt command) := by
  unfold bookBuilt
  split
  · rename_i plan hplan
    exact hJ.built plan _ (hplain.plan plan hplan) hbook
  · exact hbook

/-- A name for a rule that has just been made. -/
theorem minds_make {name : String} {builder : Builder Handle}
    (hbuilt : J (Builder.bookAfter (builder s.world.book)))
    (hvalue : ∀ h book, builder s.world.book = .ok h book → h.strong = true →
      book.Lives h.rule.index) :
    Minds J s (s.make name builder).2 := by
  refine .building hbuilt fun h book hrun hbook => ?_
  have hmade : Minds J s (s.withWorld { s.world with book }) := .of_same hbook rfl
  exact hmade.keepHandle name fun hstrong => .inr (hvalue h book hrun hstrong)

section Errand

variable {p : Parser} {c : Cursor} {w : World}

/-- The world of a run has the names of the session, and the rules that the command has
    built. -/
theorem keeps_errand (herrand : s.errand? command = some (p, c, w)) (hs : J (s.bookBuilt command)) :
    w.Keeps s.world.registry J := by
  cases command with
  | parse plan text extent | run plan guard text skip =>
    rcases hbuild : plan.build s.world.registry [] s.world.book with ⟨p', book⟩ | ⟨e, book⟩
    · simp only [errand?, hbuild] at herrand
      simp only [bookBuilt, Command.plan?, hbuild, Builder.bookAfter] at hs
      cases herrand
      have hbuilt : World.Keeps s.world.registry J { s.world with book } := ⟨rfl, hs⟩
      exact hbuilt.of_same ⟨(World.sameRules_bindGuard text _).book,
        (World.sameRules_bindGuard text _).registry⟩
    · simp only [errand?, hbuild] at herrand
      cases herrand
  | _ => cases herrand

theorem minds_errand (hJ : RuleBook.Enduring s.world.registry J) (hs : J (s.bookBuilt command))
    (herrand : s.errand? command = some (p, c, w)) : Minds J s (s.perform command).2 := by
  have hw := keeps_errand herrand hs
  rcases (perform_errand herrand).2 with ⟨_, _, hsame⟩ | ⟨r, w', hrun, _, hsame⟩
  · exact .of_keeps (hw.of_same hsame)
  · exact .of_keeps ((World.keeps_run hJ hw hrun).of_same hsame)

end Errand

theorem bookAfter_andThen {β : Type} (builder : Builder α) (value : α → β) (book : RuleBook) :
    Builder.bookAfter ((builder >>= fun a => pure (value a)) book) =
      Builder.bookAfter (builder book) := by
  simp only [Bind.bind, EStateM.bind]
  rcases builder book with ⟨a, book'⟩ | ⟨e, book'⟩ <;> rfl

/-- **What one command does** to the book and to what is kept under names. -/
theorem minds_perform (hJ : RuleBook.Enduring s.world.registry J) (hs : J (s.bookBuilt command))
    (htidy : s.world.book.Tidy s.world.registry.roots) (hplain : command.Plain) :
    Minds J s (s.perform command).2 := by
  rcases herrand : s.errand? command with _ | ⟨p, c, w⟩
  case some => exact minds_errand hJ hs herrand
  cases command with
  | declare name =>
    refine minds_make (hJ.declared _ hs) ?_
    rintro _ _ ⟨⟩ _
    exact RuleBook.lives_add rfl
  | defer name captures factory =>
    have hcaptured : (Scope.capture s.world.registry.handles captures).Held
        (· ∈ s.world.registry.roots) :=
      Scope.Gives.held_capture fun _ _ _ hlookup _ => Registry.mem_roots_of_lookup hlookup
    refine minds_make (hJ.deferred _ _ (hplain.factory name captures factory rfl) hcaptured hs) ?_
    rintro _ _ ⟨⟩ _
    exact RuleBook.lives_add rfl
  | makeRecursive name body =>
    simp only [bookBuilt, Command.plan?, Blueprint.build, bookAfter_andThen] at hs
    refine minds_make hs fun h book hrun hstrong => ?_
    cases hplain.plan _ rfl with
    | recursive _ hbody =>
      have hmakes := hbody.makes_recursive name s.world.registry (fun _ _ => id) s.world.book
      rw [hrun] at hmakes
      exact htidy.lives_of_drawn hmakes hstrong (hmakes.value h book rfl)
  | define name plan =>
    refine .building hs fun p book hbuild hbuilt => ?_
    refine .withHandle (.of_same hbuilt rfl) fun h hlookup => ?_
    rcases hdefined : (book.slot h.rule).isDefined with _ | _
    · simp only [withWorld, RuleBook.define_of_not_isDefined hdefined]
      exact .of_same (hJ.given plan p _ book h.rule (hplain.plan _ rfl) hbuild hdefined hbuilt) rfl
    · simp only [withWorld, RuleBook.define_of_isDefined hdefined]
      exact .of_same hbuilt rfl
  | downgrade name new =>
    exact .withHandle (.self hs) fun h hlookup => .keepHandle (.self hs) new (by rintro ⟨⟩)
  | clone name new =>
    exact .withHandle (.self hs) fun h hlookup =>
      .keepHandle (.self hs) new fun _ => .inl (Registry.mem_roots_of_lookup hlookup)
  | drop name =>
    refine .of_fewer hs fun k hk => ?_
    refine (List.mem_append.mp hk).elim (fun hk => ?_) (List.mem_append_right _)
    obtain ⟨entry, hentry, rfl⟩ := List.mem_map.mp hk
    exact List.mem_append_left _ (List.mem_map_of_mem (List.mem_filter.mp hentry).1)
  | isDefined name => exact .withHandle (.self hs) fun _ _ => .self hs
  | sameRule first second =>
    exact .withHandle (.self hs) fun _ _ => .withHandle (.self hs) fun _ _ => .self hs
  | inspect name => exact .withHandle (.self hs) fun _ _ => .self hs
  | store name plan =>
    refine .building hs fun p book hbuild hbuilt => ?_
    have hmakes := (hplain.plan _ rfl).makes s.world.registry (fun _ _ => id)
      Scope.gives_nil s.world.book
    rw [hbuild] at hmakes
    have hmade : Minds J s (s.withWorld { s.world with book }) := .of_same hbuilt rfl
    refine hmade.keepParser name fun k hk hstrong => .inr ?_
    exact htidy.lives_of_drawn hmakes hstrong (hmakes.value p book rfl k hk hstrong)
  | forget name =>
    refine .of_fewer hs fun k hk => ?_
    refine (List.mem_append.mp hk).elim (List.mem_append_left _) fun hk => ?_
    obtain ⟨entry, hentry, hk⟩ := List.mem_flatMap.mp hk
    have hentry' := (List.mem_filter.mp hentry).1
    exact List.mem_append_right _ (List.mem_flatMap.mpr ⟨entry, hentry', hk⟩)
  | parse plan text extent | run plan guard text skip =>
    refine .building hs fun p book hbuild _ => ?_
    simp only [errand?, hbuild] at herrand
    cases herrand
  | bind guard text =>
    have hw : s.world.Keeps s.world.registry J := ⟨rfl, hs⟩
    exact .of_keeps (hw.of_same (s.sameRules_bound guard text))
  | showGuard guard => exact .self hs
  | showTallies => exact .self hs

/-! ### Closed rules -/

/-- A recursive rule whose body does without names is made at the place, when the command
    builds its blueprint or in its run. -/
def MakesClosed (s : Session) (command : Command) (i : Nat) : Prop :=
  (∃ plan, command.plan? = some plan ∧ plan.MakesClosed s.world.registry [] s.world.book i) ∨
    ∃ p c w, s.errand? command = some (p, c, w) ∧ ∃ use ∈ w.runUses p c, use.MakesClosed i

/-- Exactly what is held lives, and factories are plain. -/
structure Orderly (s : Session) : Prop where
  tidy : s.world.book.Tidy s.world.registry.roots
  allHeld : RuleBook.AllHeld s.world.registry.roots s.world.book

theorem Orderly.step (hs : s.Orderly) (hplain : command.Plain) : (s.step command).2.Orderly := by
  have hbuilt := keeps_bookBuilt (RuleBook.Tidy.enduring _) hplain hs.tidy
  have hminds := minds_perform (RuleBook.Tidy.enduring _) hbuilt hs.tidy hplain
  exact ⟨(hminds.book.of_roots hminds.roots).sweep, RuleBook.allHeld_sweep _ _⟩

end Session

end Descent
