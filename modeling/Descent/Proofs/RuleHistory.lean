/-
  Descent/Proofs/RuleHistory.lean
  ===============================
  **The history of a rule in a run** — how it gets its body, and which body is run then.

  A rule is used through any of its handles, and each use first resolves the rule: if it
  has a factory only, that is run there and then, and while it runs it may define rules
  and ask after them, its own rule included.  The uses of a run are told in order, each
  with the world in which it is made (`World.runUses`), also for runs that do not come
  back; what happens to a rule in a use is read off that world (`Use.incidents`).

  Whatever rule is used, what happens to any one rule leads it from one phase to the next
  (`World.leads_use`), and so does a whole run (`World.recounts_run`).
-/
import Descent.Proofs.Phases
import Descent.Proofs.Expansion

namespace Descent

/-! ### What happens while a factory runs -/

def Handle.concerning (h : Handle) (rule : RuleId) (incidents : List Incident) : List Incident :=
  if h.rule.index = rule.index then incidents else []

/-- What a factory does to a rule. -/
def Factory.incidents (rule : RuleId) (registry : Registry) (captured : Scope) :
    Factory Blueprint → RuleBook → List Incident
  | .build _, _ => []
  | .define name plan next, book =>
    match plan.build registry captured book with
    | .error _ _ => []
    | .ok p book =>
      match Builder.target registry captured name book with
      | .error _ _ => []
      | .ok h book =>
        if book.isDefined h then
          h.concerning rule [.refused] ++ (next false).incidents rule registry captured book
        else
          h.concerning rule [.given p] ++
            (next true).incidents rule registry captured (book.fill h.rule p)
  | .ask name next, book =>
    match Builder.target registry captured name book with
    | .error _ _ => []
    | .ok h book =>
      h.concerning rule [.asked (book.isDefined h)] ++
        (next (book.isDefined h)).incidents rule registry captured book

/-! ### Uses -/

/-- A rule is used: through a handle, at a cursor, in a world. -/
structure Use where
  handle : Handle
  cursor : Cursor
  world : World

namespace Use

/-- The body is run if there is one and the guard knows nothing of the rule at the cursor. -/
def running (use : Use) : List Incident :=
  match (use.world.resolve use.handle).1,
    use.world.guard.lookup? use.handle.rule use.cursor.offset with
  | some body, none => [.ran body]
  | _, _ => []

/-- What happens to a rule when the factory of the rule that is used is run. -/
def developing (rule : RuleId) (use : Use) (closure : Closure) : List Incident :=
  let book := use.world.book.take use.handle.rule
  use.handle.concerning rule [.began] ++
    (closure.factory.incidents rule use.world.registry closure.captured book ++
      use.handle.concerning rule [.ended (closure.produce use.world.registry book).1])

def incidents (rule : RuleId) (use : Use) : List Incident :=
  match (use.world.book.slot use.handle.rule).body,
    (use.world.book.slot use.handle.rule).factory with
  | some _, _ => use.handle.concerning rule use.running
  | none, some closure => use.developing rule closure ++ use.handle.concerning rule use.running
  | none, none => use.handle.concerning rule [.missed]

def incidentsOf (rule : RuleId) (uses : List Use) : List Incident :=
  uses.flatMap (incidents rule)

theorem incidentsOf_append (rule : RuleId) (first second : List Use) :
    incidentsOf rule (first ++ second) = incidentsOf rule first ++ incidentsOf rule second :=
  List.flatMap_append

theorem incidentsOf_singleton (rule : RuleId) (use : Use) :
    incidentsOf rule [use] = use.incidents rule := List.flatMap_singleton ..

end Use

/-- The uses along a dialogue, given what the rules do and the uses that they make. -/
def Dialogue.uses (call : Handle → Matcher World) (told : Handle → Cursor → World → List Use) :
    Dialogue → World → List Use
  | .finish _, _ | .endless, _ => []
  | .started _ _ next, w => next.uses call told w
  | .fellShort stop next, w => next.uses call told (w.note (.fellShort stop))
  | .tally label next, w => next.uses call told (w.tally label)
  | .ask h c next, w =>
    match call h c w with
    | some (.success v d, w') => told h c w ++ (next (.success v d)).uses call told w'
    | some (.failure f, w') => told h c w ++ (next (.failure f)).uses call told w'
    | _ => told h c w

namespace Dialogue

variable {call : Handle → Matcher World} {told : Handle → Cursor → World → List Use}
  {k : Handle} {d : Cursor} {next : Reply → Dialogue} {w w' : World} {r : Reply}

theorem uses_ask_of_none (h : call k d w = none) :
    (ask k d next).uses call told w = told k d w := by
  simp only [uses, h]

theorem uses_ask_of_defect {e : Defect} (h : call k d w = some (.defect e, w')) :
    (ask k d next).uses call told w = told k d w := by
  simp only [uses, h]

theorem uses_ask_of_reply (h : call k d w = some (r, w')) (hr : r.defect? = none) :
    (ask k d next).uses call told w = told k d w ++ (next r).uses call told w' := by
  cases r with
  | success v e => simp only [uses, h]
  | failure f => simp only [uses, h]
  | defect e => cases hr

end Dialogue

namespace World

/-- The uses that a use of a rule makes, itself the first of them. -/
noncomputable def callUses : (fuel : Nat) → Handle → Cursor → World → List Use
  | 0, _, _, _ => []
  | fuel + 1, h, c, w =>
    match (w.resolve h).1, w.guard.lookup? h.rule c.offset with
    | some body, none =>
      ⟨h, c, w⟩ :: (body.dialogue c).uses (call fuel) (callUses fuel) (w.opened h c)
    | _, _ => [⟨h, c, w⟩]

noncomputable def runUses (p : Parser) (c : Cursor) (w : World) : List Use :=
  (p.dialogue c).uses (call (w.depthLimit c)) (callUses (w.depthLimit c)) w

end World

/-! ### Factories -/

section Factories

variable {rule : RuleId} {h : Handle} {incident : Incident} {phase last : Phase}

theorem Handle.mem_concerning {incidents : List Incident}
    (hmem : incident ∈ h.concerning rule incidents) : incident ∈ incidents := by
  unfold concerning at hmem
  split at hmem
  · exact hmem
  · cases hmem

/-- What is about another rule leaves the phase as it is. -/
theorem Phase.leads_concerning (howns : h.rule.index = rule.index → phase.permits incident)
    (hlast : h.rule.index = rule.index → phase.after incident = last)
    (hother : h.rule.index ≠ rule.index → phase = last) :
    phase.Leads (h.concerning rule [incident]) last := by
  unfold Handle.concerning
  split
  · rename_i hrule
    rw [← hlast hrule]
    exact .single (howns hrule)
  · rename_i hrule
    rw [hother hrule]
    exact .nil last

/-- Building leaves a rule that is there as it is. -/
theorem Builder.Adds.slot_eq {α : Type} {n : Nat} {builder : Builder α} {book : RuleBook}
    (hbuilder : Adds n builder) (halive : (book.slot rule).alive = true) :
    (bookAfter (builder book)).slot rule = book.slot rule := by
  obtain ⟨added, _, hbook⟩ := hbuilder book
  rw [hbook, RuleBook.slot_append (RuleBook.index_lt_of_alive halive)]

/-- A rule is given its body, the same one or another. -/
theorem Phase.leads_given {book : RuleBook} {running : Bool} {p : Parser}
    (hnone : (book.slot h.rule).isDefined = false) :
    Phase.Leads ⟨book.slot rule, running⟩ (h.concerning rule [.given p])
      ⟨(book.fill h.rule p).slot rule, running⟩ := by
  refine leads_concerning (fun hrule => ?_) (fun hrule => ?_) fun hrule => ?_
  · rw [← RuleBook.slot_congr hrule]
    exact hnone
  · rw [← RuleBook.slot_congr hrule, ← RuleBook.slot_congr hrule, RuleBook.slot_fill_self]
    rfl
  · rw [RuleBook.slot_fill_of_ne (Ne.symm hrule)]

/-- **What a factory does to a rule**, its own or another one. -/
theorem Factory.leads_run (rule : RuleId) (registry : Registry) (captured : Scope)
    (factory : Factory Blueprint) (book : RuleBook) (running : Bool)
    (halive : (book.slot rule).alive = true) :
    Phase.Leads ⟨book.slot rule, running⟩ (factory.incidents rule registry captured book)
      ⟨(Builder.bookAfter (factory.run registry captured book)).slot rule, running⟩ := by
  induction factory generalizing book with
  | build plan =>
    rw [run, (plan.adds_build registry captured).slot_eq halive]
    exact .nil _
  | define name plan next ih =>
    have hslot := (plan.adds_build registry captured).slot_eq halive
    rcases hbuild : plan.build registry captured book with ⟨p, book₁⟩ | ⟨e, book₁⟩
    · rw [hbuild, Builder.bookAfter] at hslot
      rw [← hslot] at halive ⊢
      rcases Builder.target_cases registry captured name book₁ with ⟨h, htarget⟩ | ⟨e, htarget⟩
      · have hdefine := Builder.define_apply h p book₁
        simp only [run, incidents, bind, EStateM.bind, hbuild, htarget, hdefine,
          RuleBook.isDefined_eq]
        rcases hdefined : (book₁.slot h.rule).isDefined with _ | _
        · refine .append (Phase.leads_given hdefined) (ih true (book₁.fill h.rule p) ?_)
          rwa [RuleBook.alive_fill]
        · refine .append (Phase.leads_concerning (fun hrule => ?_) (fun _ => rfl) fun _ => rfl)
            (ih false book₁ halive)
          rw [← RuleBook.slot_congr hrule]
          exact hdefined
      · simp only [run, incidents, bind, EStateM.bind, hbuild, htarget]
        exact .nil _
    · rw [hbuild, Builder.bookAfter] at hslot
      simp only [run, incidents, bind, EStateM.bind, hbuild, Builder.bookAfter, hslot]
      exact .nil _
  | ask name next ih =>
    rcases Builder.target_cases registry captured name book with ⟨h, htarget⟩ | ⟨e, htarget⟩
    · simp only [run, incidents, bind, EStateM.bind, htarget]
      refine .append (Phase.leads_concerning (fun hrule => ?_) (fun _ => rfl) fun _ => rfl)
        (ih (book.isDefined h) book halive)
      rw [RuleBook.isDefined_eq, RuleBook.slot_congr hrule]
      rfl
    · simp only [run, incidents, bind, EStateM.bind, htarget]
      exact .nil _

end Factories

/-! ### Runs -/

namespace World

variable {rule : RuleId} {h : Handle} {c : Cursor} {w : World} {body : Parser} {n : Nat}

/-- The factory of a rule is begun, does what it does, and is ended. -/
theorem leads_developing {closure : Closure} (halive : (w.book.slot rule).alive = true)
    (hbody : (w.book.slot h.rule).body = none)
    (hfactory : (w.book.slot h.rule).factory = some closure) :
    Phase.Leads ⟨w.book.slot rule, false⟩ (Use.developing rule ⟨h, c, w⟩ closure)
      ⟨(w.develop h.rule closure).2.book.slot rule, false⟩ := by
  have hacts := fun running halive => closure.factory.leads_run rule w.registry
    closure.captured (w.book.take h.rule) running halive
  rw [← closure.book_produce] at hacts
  by_cases hrule : h.rule.index = rule.index
  · rw [RuleBook.slot_congr hrule] at hbody hfactory
    have htaken : (w.book.take h.rule).slot rule = (w.book.slot rule).take := by
      rw [← RuleBook.slot_congr hrule, RuleBook.slot_take_self, RuleBook.slot_congr hrule]
    have hbegan : Phase.Leads ⟨w.book.slot rule, false⟩ [.began]
        ⟨(w.book.take h.rule).slot rule, true⟩ := by
      rw [htaken]
      exact .single ⟨by rw [hfactory]; rfl, hbody⟩
    have hended : Phase.Leads
        ⟨(closure.produce w.registry (w.book.take h.rule)).2.slot rule, true⟩
        [.ended (closure.produce w.registry (w.book.take h.rule)).1]
        ⟨(w.develop h.rule closure).2.book.slot rule, false⟩ := by
      rw [book_develop, ← RuleBook.slot_congr hrule, ← RuleBook.slot_congr hrule,
        RuleBook.slot_fill_self]
      exact .single rfl
    have hinner := hacts true (by rw [htaken]; exact halive)
    simp only [Use.developing, Handle.concerning, if_pos hrule]
    exact hbegan.append (hinner.append hended)
  · have htaken : (w.book.take h.rule).slot rule = w.book.slot rule :=
      RuleBook.slot_take_of_ne (Ne.symm hrule)
    have hinner := hacts false (by rw [htaken]; exact halive)
    rw [htaken] at hinner
    simp only [Use.developing, Handle.concerning, if_neg hrule, List.nil_append, List.append_nil]
    rw [book_develop, RuleBook.slot_fill_of_ne (Ne.symm hrule)]
    exact hinner

/-- The body of the rule that is used is run, or it is not. -/
theorem leads_running (rule : RuleId) (h : Handle) (c : Cursor) (w : World) :
    Phase.Leads ⟨(w.resolve h).2.book.slot rule, false⟩
    (h.concerning rule (Use.running ⟨h, c, w⟩)) ⟨(w.resolve h).2.book.slot rule, false⟩ := by
  unfold Use.running
  split
  · rename_i body hbody _
    refine Phase.leads_concerning (fun hrule => ?_) (fun _ => rfl) fun _ => rfl
    rw [← RuleBook.slot_congr hrule]
    exact body_resolve hbody
  · unfold Handle.concerning
    split <;> exact .nil _

/-- **What a use does to a rule**, the one that is used or another one, apart from what
    happens in its body. -/
theorem leads_use (halive : (w.book.slot rule).alive = true) :
    Phase.Leads ⟨w.book.slot rule, false⟩ (Use.incidentsOf rule [⟨h, c, w⟩])
      ⟨(w.resolve h).2.book.slot rule, false⟩ := by
  rw [Use.incidentsOf_singleton]
  rcases w.resolve_cases h with
    ⟨hnone, hrun⟩ | ⟨body, hbody, hrun⟩ | ⟨closure, hbody, hfactory, hrun⟩
  · obtain ⟨hfactory, hbody⟩ := Slot.isDefined_eq_false_iff.mp hnone
    simp only [Use.incidents, hfactory, hbody, hrun]
    refine Phase.leads_concerning (fun hrule => ?_) (fun _ => rfl) fun _ => rfl
    rw [← RuleBook.slot_congr hrule]
    exact hnone
  · have hrunning := leads_running rule h c w
    rw [hrun] at hrunning ⊢
    simp only [Use.incidents, hbody]
    exact hrunning
  · have hdeveloping := leads_developing (c := c) halive hbody hfactory
    have hrunning := leads_running rule h c w
    rw [hrun] at hrunning ⊢
    simp only [Use.incidents, hbody, hfactory]
    exact hdeveloping.append hrunning

/-- What has happened to a rule from the world on, and where it is told that there is an
    outcome, what has become of it there. -/
def Recounts (rule : RuleId) (w : World) (incidents : List Incident)
    (outcome : Option (Reply × World)) : Prop :=
  ∃ last, Phase.Leads ⟨w.book.slot rule, false⟩ incidents ⟨last, false⟩ ∧ last.alive = true ∧
    ∀ r w', outcome = some (r, w') → w'.book.slot rule = last

theorem recounts_hold
    (hcall : ∀ k d w, (w.book.slot rule).alive = true →
      Recounts rule w (Use.incidentsOf rule (callUses n k d w)) (call n k d w))
    (t : Dialogue) (w : World) (halive : (w.book.slot rule).alive = true) :
    Recounts rule w (Use.incidentsOf rule (t.uses (call n) (callUses n) w))
      (t.hold (call n) w) := by
  induction t generalizing w with
  | finish r =>
    refine ⟨_, .nil _, halive, ?_⟩
    rintro _ _ ⟨⟩
    rfl
  | endless => exact ⟨_, .nil _, halive, fun _ _ heq => nomatch heq⟩
  | started p d next ih => exact ih w halive
  | fellShort stop next ih => exact ih (w.note (.fellShort stop)) halive
  | tally label next ih => exact ih (w.tally label) halive
  | ask k d next ih =>
    obtain ⟨middle, hleads, hmiddle, hafter⟩ := hcall k d w halive
    rcases hask : call n k d w with _ | ⟨r, w₁⟩
    · rw [Dialogue.uses_ask_of_none hask, Dialogue.hold_ask_of_none hask]
      exact ⟨middle, hleads, hmiddle, fun _ _ heq => nomatch heq⟩
    · have hslot := hafter r w₁ hask
      rcases hr : r.defect? with _ | e
      · rw [Dialogue.uses_ask_of_reply hask hr, Dialogue.hold_ask_of_reply hask hr,
          Use.incidentsOf_append]
        obtain ⟨last, hmore, hlast, hends⟩ := ih r w₁ (by rw [hslot]; exact hmiddle)
        rw [hslot] at hmore
        exact ⟨last, hleads.append hmore, hlast, hends⟩
      · obtain rfl := Reply.eq_defect hr
        rw [Dialogue.uses_ask_of_defect hask, Dialogue.hold_ask_of_defect hask]
        refine ⟨middle, hleads, hmiddle, ?_⟩
        rintro _ _ ⟨⟩
        exact hslot

/-- **What a use of a rule does to a rule**, the same or another one. -/
theorem recounts_call (n : Nat) (h : Handle) (c : Cursor) (w : World)
    (halive : (w.book.slot rule).alive = true) :
    Recounts rule w (Use.incidentsOf rule (callUses n h c w)) (call n h c w) := by
  induction n generalizing h c w with
  | zero => exact ⟨_, .nil _, halive, fun _ _ heq => nomatch heq⟩
  | succ n ih =>
    have hused := leads_use (h := h) (c := c) halive
    have hresolved : ((w.resolve h).2.book.slot rule).alive = true :=
      (alive_resolve h (RuleBook.index_lt_of_alive halive)).trans halive
    rcases hbody : (w.resolve h).1 with _ | body
    · simp only [callUses, call_of_unresolved hbody, hbody]
      rw [resolve_of_none hbody] at hused
      refine ⟨_, hused, halive, ?_⟩
      rintro _ _ ⟨⟩
      rfl
    · rw [call_of_resolved hbody]
      rcases hlookup : w.guard.lookup? h.rule c.offset with _ | _ | memo
      · obtain ⟨last, hmore, hlast, hends⟩ :=
          recounts_hold ih (body.dialogue c) (w.opened h c) hresolved
        rw [← Parser.matcher_eq_hold] at hends
        simp only [callUses, hbody, hlookup]
        rw [← List.singleton_append, Use.incidentsOf_append]
        refine ⟨last, hused.append hmore, hlast, ?_⟩
        rcases hrun : body.matcher (call n) c (w.opened h c) with _ | ⟨r, w₁⟩
        · exact fun _ _ heq => nomatch heq
        · rintro _ _ ⟨⟩
          exact hends r w₁ hrun
      · simp only [callUses, hbody, hlookup]
        refine ⟨_, hused, hresolved, ?_⟩
        rintro _ _ ⟨⟩
        rfl
      · simp only [callUses, hbody, hlookup]
        refine ⟨_, hused, hresolved, ?_⟩
        rintro _ _ ⟨⟩
        rfl

/-- **What a run does to a rule**, whether it comes back or not. -/
theorem recounts_run (p : Parser) (c : Cursor) (w : World)
    (halive : (w.book.slot rule).alive = true) :
    Recounts rule w (Use.incidentsOf rule (runUses p c w)) (run p c w) := by
  have htold := recounts_hold (recounts_call (w.depthLimit c)) (p.dialogue c) w halive
  rw [← Parser.matcher_eq_hold] at htold
  exact htold

end World

end Descent
