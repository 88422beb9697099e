/-
  Descent/Proofs/WriteOnce.lean
  =============================
  **Rules are written once** — in any order of making, defining and running.

  A session carries out commands one after the other; a command whose run does not come
  back is the last one (`Session.course`).  What happens to one rule is told from moment
  to moment: a definition is given to it or refused, someone asks whether it is defined,
  or a run uses it, maybe many times, through whatever handles, and its factory does what
  it does (`Session.incidents`).

  As long as a strong handle is left, all of this leads the rule from one phase to the
  next (`Session.leads_course`).  So its factory is begun by one use at most, it has one
  body ever, and a definition is taken exactly where there is neither a factory nor a body
  (`Session.written_once`).  What is defined does not stay so at every instant: while its
  own factory runs, a rule has neither (`Session.undefined_while_developed`).
-/
import Descent.Proofs.RuleHistory
import Descent.Proofs.Sharing
import Descent.Session

namespace Descent

theorem Session.slot_sweep (s : Session) (rule : RuleId) :
    s.sweep.world.book.slot rule = s.world.book.slot rule ∨
      s.sweep.world.book.slot rule = .dropped :=
  RuleBook.slot_sweepRounds _ _ _ _

/-! ### Parses are runs -/

namespace World

variable {p : Parser} {text : List Char} {w w' : World}

theorem parseLeading_of_none (h : w.runAfresh p text = none) : w.parseLeading p text = none := by
  rw [parseLeading, h]

theorem parseLeading_of_some {r : Reply} (h : w.runAfresh p text = some (r, w')) :
    ∃ x u, w.parseLeading p text = some (x, u) ∧ SameRules w' u := by
  rw [parseLeading, h]
  cases r with
  | success | failure | defect => exact ⟨_, _, rfl, rfl, rfl⟩

theorem parse_of_none (h : w.parseLeading p.complete text = none) : w.parse p text = none := by
  rw [parse, h]

theorem parse_of_some {x : Except Error (Value × Cursor)}
    (h : w.parseLeading p.complete text = some (x, w')) :
    ∃ y, w.parse p text = some (y, w') := by
  rw [parse, h]
  cases x with
  | ok | error => exact ⟨_, rfl⟩

end World

/-! ### What happens in a session -/

/-- The parser that is run to get as much of a text as is asked for. -/
def Extent.parser (p : Parser) : Extent → Parser
  | .whole => p.complete
  | .leading | .reply => p

def Command.runs : Command → Bool
  | .parse _ _ _ | .run _ _ _ _ => true
  | _ => false

namespace Session

def slot (s : Session) (rule : RuleId) : Slot := s.world.book.slot rule

/-- The handle and the parser of a definition, if both are there. -/
def definition? (s : Session) : Command → Option (Handle × Parser)
  | .define name plan =>
    match plan.build s.world.registry [] s.world.book, s.world.registry.handles.lookup name with
    | .ok p _, some h => some (h, p)
    | _, _ => none
  | _ => none

/-- The handle of a rule of which a command asks whether it is defined. -/
def question? (s : Session) : Command → Option Handle
  | .isDefined name => s.world.registry.handles.lookup name
  | _ => none

/-- The run that a command makes: the parser, the cursor and the world. -/
def errand? (s : Session) : Command → Option (Parser × Cursor × World)
  | .parse plan text extent =>
    match plan.build s.world.registry [] s.world.book with
    | .ok p book => some (extent.parser p, .start text,
        ({ s.world with book, guard := .empty } : World).bindGuard text)
    | .error _ _ => none
  | .run plan guard text skip =>
    match plan.build s.world.registry [] s.world.book with
    | .ok p book => some (p, (Cursor.start text).skip skip,
        (s.withWorld { s.world with book }).bound guard text)
    | .error _ _ => none
  | _ => none

noncomputable def incidents (s : Session) (rule : RuleId) (command : Command) : List Incident :=
  match s.definition? command, s.question? command, s.errand? command with
  | some (h, p), _, _ =>
    h.concerning rule [if s.world.book.isDefined h then .refused else .given p]
  | none, some h, _ => h.concerning rule [.asked (s.world.book.isDefined h)]
  | none, none, some (p, c, w) => Use.incidentsOf rule (w.runUses p c)
  | none, none, none => []

end Session

/-- A command, with the session in which it is carried out. -/
structure Moment where
  session : Session
  command : Command

namespace Moment

/-- The answer, and the session before rules are dropped that nothing holds any more. -/
def outcome (m : Moment) : Answer × Session := m.session.perform m.command

noncomputable def incidents (m : Moment) (rule : RuleId) : List Incident :=
  m.session.incidents rule m.command

end Moment

namespace Session

/-- The moments of a session.  A command whose run does not come back is the last one. -/
def course (s : Session) : List Command → List Moment
  | [] => []
  | command :: rest =>
    ⟨s, command⟩ ::
      match s.step command with
      | (.endless, _) => []
      | (_, s) => s.course rest

noncomputable def history (s : Session) (rule : RuleId) (commands : List Command) :
    List Incident :=
  (s.course commands).flatMap fun m => m.incidents rule

/-- The rule between two commands, when no factory runs. -/
def phase (s : Session) (rule : RuleId) : Phase := ⟨s.slot rule, false⟩

end Session

/-! ### One command at a time -/

namespace Session

variable {rule : RuleId} {s : Session} {command : Command} {α : Type}

/-- The command has come to an answer, and the rule is as it was. -/
structure Leaves (rule : RuleId) (s : Session) (x : Answer × Session) : Prop where
  answered : x.1 ≠ .endless
  slot_eq : x.2.slot rule = s.slot rule

theorem slot_of_built {plan : Blueprint} {p : Parser} {book : RuleBook}
    (hbuild : plan.build s.world.registry [] s.world.book = .ok p book)
    (halive : (s.slot rule).alive = true) : book.slot rule = s.slot rule := by
  have hslot := (plan.adds_build s.world.registry []).slot_eq halive
  rwa [hbuild] at hslot

theorem leaves_unbuilt {plan : Blueprint} {e : Error} {book : RuleBook}
    (hbuild : plan.build s.world.registry [] s.world.book = .error e book)
    (halive : (s.slot rule).alive = true) :
    Leaves rule s (.error e, s.withWorld { s.world with book }) := by
  have hslot := (plan.adds_build s.world.registry []).slot_eq halive
  rw [hbuild] at hslot
  exact ⟨nofun, hslot⟩

theorem leaves_building {n : Nat} {builder : Builder α} {andThen : α → Session → Answer × Session}
    (hbuilder : Builder.Adds n builder) (halive : (s.slot rule).alive = true)
    (hthen : ∀ a s', s'.slot rule = s.slot rule → Leaves rule s (andThen a s')) :
    Leaves rule s (s.building builder andThen) := by
  have hslot := hbuilder.slot_eq halive
  unfold building
  rcases hrun : builder s.world.book with ⟨a, book⟩ | ⟨e, book⟩
  · rw [hrun] at hslot
    exact hthen a _ hslot
  · rw [hrun] at hslot
    exact ⟨nofun, hslot⟩

theorem leaves_make {n : Nat} {name : String} {builder : Builder Handle}
    (hbuilder : Builder.Adds n builder) (halive : (s.slot rule).alive = true) :
    Leaves rule s (s.make name builder) := by
  refine leaves_building hbuilder halive fun h s' hs => ?_
  exact ⟨nofun, hs⟩

theorem leaves_withHandle {name : String} {use : Handle → Answer × Session}
    (huse : ∀ h, Leaves rule s (use h)) : Leaves rule s (s.withHandle name use) := by
  unfold withHandle
  split
  · exact huse _
  · exact ⟨nofun, rfl⟩

theorem sameRules_bound (s : Session) (guard : String) (text : List Char) :
    World.SameRules s.world (s.bound guard text) := by
  have hsame := World.sameRules_bindGuard text { s.world with guard := s.guardOf guard }
  exact ⟨hsame.book, hsame.registry⟩

/-- **Only definitions and runs do anything to a rule.** -/
theorem leaves_perform (halive : (s.slot rule).alive = true)
    (hdefinition : s.definition? command = none) (herrand : s.errand? command = none) :
    Leaves rule s (s.perform command) := by
  have hanswer : ∀ {answer : Answer}, answer ≠ .endless → Leaves rule s (answer, s) :=
    fun hanswer => ⟨hanswer, rfl⟩
  cases command with
  | declare name => exact leaves_make (.newRule name .undefined) halive
  | defer name captures factory => exact leaves_make (.newRule name (.deferred ⟨factory, _⟩)) halive
  | makeRecursive name body =>
    exact leaves_make (.recursive name [] fun scope => body.adds_build _ scope) halive
  | define name plan =>
    simp only [perform, building]
    rcases hbuild : plan.build s.world.registry [] s.world.book with ⟨p, book⟩ | ⟨e, book⟩
    · rcases hlookup : s.world.registry.handles.lookup name with _ | h
      · simp only [withHandle, withWorld, hlookup]
        exact ⟨nofun, slot_of_built hbuild halive⟩
      · simp only [definition?, hbuild, hlookup] at hdefinition
        cases hdefinition
    · exact leaves_unbuilt hbuild halive
  | downgrade name new => exact leaves_withHandle fun h => ⟨nofun, rfl⟩
  | clone name new => exact leaves_withHandle fun h => ⟨nofun, rfl⟩
  | drop name => exact ⟨nofun, rfl⟩
  | isDefined name => exact leaves_withHandle fun h => hanswer nofun
  | sameRule first second =>
    exact leaves_withHandle fun h => leaves_withHandle fun k => hanswer nofun
  | inspect name => exact leaves_withHandle fun h => hanswer nofun
  | store name plan =>
    rw [perform]
    refine leaves_building (plan.adds_build _ _) halive fun p s' hs => ?_
    exact ⟨nofun, hs⟩
  | forget name => exact ⟨nofun, rfl⟩
  | parse plan text extent | run plan guard text skip =>
    simp only [perform, building]
    rcases hbuild : plan.build s.world.registry [] s.world.book with ⟨p, book⟩ | ⟨e, book⟩
    · simp only [errand?, hbuild] at herrand
      cases herrand
    · exact leaves_unbuilt hbuild halive
  | bind guard text =>
    refine ⟨nofun, ?_⟩
    exact congrArg (RuleBook.slot · rule) (s.sameRules_bound guard text).book
  | showGuard guard => exact hanswer nofun
  | showTallies => exact hanswer nofun

/-! Definitions -/

variable {h : Handle} {p : Parser}

theorem slot_congr (s : Session) (hrule : h.rule.index = rule.index) :
    s.slot h.rule = s.slot rule :=
  RuleBook.slot_congr hrule _

theorem exists_of_definition (hdefinition : s.definition? command = some (h, p)) :
    ∃ name plan book, command = .define name plan ∧
      plan.build s.world.registry [] s.world.book = .ok p book ∧
      s.world.registry.handles.lookup name = some h := by
  cases command with
  | define name plan =>
    simp only [definition?] at hdefinition
    rcases hbuild : plan.build s.world.registry [] s.world.book with ⟨p', book⟩ | ⟨e, book⟩
    · rcases hlookup : s.world.registry.handles.lookup name with _ | h'
      · simp only [hbuild, hlookup] at hdefinition
        cases hdefinition
      · simp only [hbuild, hlookup] at hdefinition
        cases hdefinition
        exact ⟨name, plan, book, rfl, hbuild, hlookup⟩
    · simp only [hbuild] at hdefinition
      cases hdefinition
  | _ => cases hdefinition

/-- A definition builds its parser first, which leaves all rules as they are. -/
theorem perform_definition (hdefinition : s.definition? command = some (h, p)) :
    ∃ book : RuleBook,
      (∀ rule, (s.slot rule).alive = true → book.slot rule = s.slot rule) ∧
      s.perform command =
        if (book.slot h.rule).isDefined then
          (.error (.ruleRedefined h.rule), s.withWorld { s.world with book })
        else (.done, s.withWorld { s.world with book := book.fill h.rule p }) := by
  obtain ⟨name, plan, book, rfl, hbuild, hlookup⟩ := exists_of_definition hdefinition
  refine ⟨book, fun _ => slot_of_built hbuild, ?_⟩
  simp only [perform, building, withHandle, withWorld, hbuild, hlookup]
  rcases hdefined : (book.slot h.rule).isDefined with _ | _
  · rw [RuleBook.define_of_not_isDefined hdefined]
    rfl
  · rw [RuleBook.define_of_isDefined hdefined]
    rfl

/-- **A rule with neither a factory nor a body takes the first one** that it is given. -/
theorem definition_taken (hrule : h.rule.index = rule.index)
    (halive : (s.slot rule).alive = true) (hnone : (s.slot rule).isDefined = false)
    (hdefinition : s.definition? command = some (h, p)) :
    (s.perform command).1 = .done ∧ (s.perform command).2.slot rule = (s.slot rule).fill p := by
  obtain ⟨book, hbook, hperform⟩ := perform_definition hdefinition
  have hslot := hbook rule halive
  have hfilled : (book.fill h.rule p).slot rule = (s.slot rule).fill p := by
    rw [← RuleBook.slot_congr hrule, RuleBook.slot_fill_self, RuleBook.slot_congr hrule, hslot]
  rw [hperform, RuleBook.slot_congr hrule, hslot, if_neg (by rw [hnone]; exact nofun)]
  exact ⟨rfl, hfilled⟩

/-- **A rule that has a body, or a factory for one, takes no other.** -/
theorem definition_refused (hrule : h.rule.index = rule.index)
    (hsome : (s.slot rule).isDefined = true)
    (hdefinition : s.definition? command = some (h, p)) :
    (s.perform command).1 = .error (.ruleRedefined h.rule) ∧
      (s.perform command).2.slot rule = s.slot rule := by
  obtain ⟨book, hbook, hperform⟩ := perform_definition hdefinition
  have hslot := hbook rule (Slot.alive_of_isDefined hsome)
  rw [hperform, RuleBook.slot_congr hrule, hslot, if_pos hsome]
  exact ⟨rfl, hslot⟩

/-- Definitions of other rules leave a rule as it is. -/
theorem leaves_definition (hne : h.rule.index ≠ rule.index) (halive : (s.slot rule).alive = true)
    (hdefinition : s.definition? command = some (h, p)) : Leaves rule s (s.perform command) := by
  obtain ⟨book, hbook, hperform⟩ := perform_definition hdefinition
  have hslot := hbook rule halive
  rw [hperform]
  split
  · exact ⟨nofun, hslot⟩
  · exact ⟨nofun, (RuleBook.slot_fill_of_ne (Ne.symm hne) p).trans hslot⟩

/-! Runs -/

/-- Either neither the run nor the command comes back, and the rules are left as they were; or
    the command has an answer, and leaves the rules that the run leaves. -/
def Runs (before : World) (run : Option (Reply × World)) (x : Answer × Session) : Prop :=
  (run = none ∧ x.1 = .endless ∧ World.SameRules before x.2.world) ∨
    ∃ r w, run = some (r, w) ∧ x.1 ≠ .endless ∧ World.SameRules w x.2.world

theorem Runs.of_same {w u : World} {run : Option (Reply × World)} {x : Answer × Session}
    (h : Runs w run x) (hsame : World.SameRules u w) : Runs u run x :=
  h.imp_left fun ⟨hrun, hendless, hkept⟩ => ⟨hrun, hendless, hsame.trans hkept⟩

theorem runs_parse (s : Session) (p : Parser) (text : List Char) (extent : Extent) :
    Runs s.world (s.world.runAfresh (extent.parser p) text) (s.parse p text extent) := by
  cases extent with
  | whole =>
    rcases hrun : s.world.runAfresh p.complete text with _ | ⟨r, w⟩
    · rw [Session.parse, World.parse_of_none (World.parseLeading_of_none hrun)]
      exact .inl ⟨hrun, rfl, .refl _⟩
    · obtain ⟨x, w', hleading, hsame⟩ := World.parseLeading_of_some hrun
      obtain ⟨y, hparse⟩ := World.parse_of_some hleading
      rw [Session.parse, hparse]
      cases y with
      | ok | error => exact .inr ⟨r, w, hrun, nofun, hsame⟩
  | leading =>
    rcases hrun : s.world.runAfresh p text with _ | ⟨r, w⟩
    · rw [Session.parse, World.parseLeading_of_none hrun]
      exact .inl ⟨hrun, rfl, .refl _⟩
    · obtain ⟨x, w', hleading, hsame⟩ := World.parseLeading_of_some hrun
      rw [Session.parse, hleading]
      cases x with
      | ok | error => exact .inr ⟨r, w, hrun, nofun, hsame⟩
  | reply =>
    rcases hrun : s.world.runAfresh p text with _ | ⟨r, w⟩
    · rw [Session.parse, hrun]
      exact .inl ⟨hrun, rfl, .refl _⟩
    · rw [Session.parse, hrun]
      exact .inr ⟨r, w, hrun, nofun, .refl _⟩

theorem runs_run (s : Session) (p : Parser) (guard : String) (text : List Char) (skip : Nat) :
    Runs s.world (World.run p ((Cursor.start text).skip skip) (s.bound guard text))
      (s.run p guard text skip) := by
  rcases hrun : World.run p ((Cursor.start text).skip skip) (s.bound guard text) with _ | ⟨r, w⟩
  · simp only [Session.run, hrun]
    exact .inl ⟨rfl, rfl, .refl _⟩
  · simp only [Session.run, hrun]
    exact .inr ⟨r, w, rfl, nofun, rfl, rfl⟩

/-- A run builds its parser first, which leaves all rules as they are. -/
theorem perform_errand {c : Cursor} {w : World} (herrand : s.errand? command = some (p, c, w)) :
    (∀ rule, (s.slot rule).alive = true → w.book.slot rule = s.slot rule) ∧
      Runs w (World.run p c w) (s.perform command) := by
  cases command with
  | parse plan text extent =>
    simp only [errand?] at herrand
    rcases hbuild : plan.build s.world.registry [] s.world.book with ⟨p', book⟩ | ⟨e, book⟩
    · simp only [hbuild] at herrand
      cases herrand
      have hsame := World.sameRules_bindGuard text
        ({ s.world with book, guard := .empty } : World)
      have hruns := runs_parse (s.withWorld { s.world with book }) p' text extent
      simp only [perform, building, hbuild]
      rw [hsame.book]
      exact ⟨fun _ => slot_of_built hbuild, hruns.of_same ⟨hsame.symm.book, hsame.symm.registry⟩⟩
    · simp only [hbuild] at herrand
      cases herrand
  | run plan guard text skip =>
    simp only [errand?] at herrand
    rcases hbuild : plan.build s.world.registry [] s.world.book with ⟨p', book⟩ | ⟨e, book⟩
    · simp only [hbuild] at herrand
      cases herrand
      have hsame := (s.withWorld { s.world with book }).sameRules_bound guard text
      have hruns := runs_run (s.withWorld { s.world with book }) p guard text skip
      simp only [perform, building, hbuild]
      rw [hsame.book]
      exact ⟨fun _ => slot_of_built hbuild, hruns.of_same hsame.symm⟩
    · simp only [hbuild] at herrand
      cases herrand
  | _ => cases herrand

/-- **What one command does to a rule** leads it from one phase to the next, which it reaches if
    the command comes to an answer. -/
theorem leads_perform (command : Command) (halive : (s.slot rule).alive = true) :
    ∃ last, (s.phase rule).Leads (s.incidents rule command) ⟨last, false⟩ ∧ last.alive = true ∧
      ((s.perform command).1 ≠ .endless → (s.perform command).2.slot rule = last) ∧
      ((s.perform command).1 = .endless → (s.perform command).2.slot rule = s.slot rule) := by
  unfold incidents
  rcases hdefinition : s.definition? command with _ | ⟨h, p⟩
  · rcases herrand : s.errand? command with _ | ⟨p, c, w⟩
    · obtain ⟨hanswered, hslot⟩ := leaves_perform halive hdefinition herrand
      refine ⟨_, ?_, halive, fun _ => hslot, fun hendless => absurd hendless hanswered⟩
      rcases s.question? command with _ | h
      · exact .nil _
      · refine Phase.leads_concerning (fun hrule => ?_) (fun _ => rfl) fun _ => rfl
        rw [RuleBook.isDefined_eq, RuleBook.slot_congr hrule]
        rfl
    · have hquestion : s.question? command = none := by
        cases command with
        | isDefined => cases herrand
        | _ => rfl
      obtain ⟨hbuilt, hruns⟩ := perform_errand herrand
      have hslot := hbuilt rule halive
      obtain ⟨last, hleads, hlast, hends⟩ := World.recounts_run p c w (by rw [hslot]; exact halive)
      rw [hslot] at hleads
      rw [hquestion]
      refine ⟨last, hleads, hlast, ?_⟩
      rcases hruns with ⟨_, hendless, hsame⟩ | ⟨r, w', hrun, hanswered, hsame⟩
      · refine ⟨fun hanswered => absurd hendless hanswered, fun _ => ?_⟩
        rw [slot, hsame.book]
        exact hslot
      · refine ⟨fun _ => ?_, fun hendless => absurd hendless hanswered⟩
        rw [slot, hsame.book]
        exact hends r w' hrun
  · simp only [RuleBook.isDefined_eq]
    by_cases hrule : h.rule.index = rule.index
    · rw [RuleBook.slot_congr hrule, Handle.concerning, if_pos hrule]
      rcases hdefined : (s.slot rule).isDefined with _ | _
      · obtain ⟨hanswer, hgiven⟩ := definition_taken hrule halive hdefined hdefinition
        refine ⟨(s.slot rule).fill p, ?_, ?_, fun _ => hgiven, fun hendless => ?_⟩
        · rw [slot] at hdefined
          rw [hdefined]
          exact .single hdefined
        · rwa [Slot.alive_fill]
        · rw [hanswer] at hendless
          cases hendless
      · have hkept := (definition_refused hrule hdefined hdefinition).2
        refine ⟨s.slot rule, ?_, halive, fun _ => hkept, fun _ => hkept⟩
        rw [slot] at hdefined
        rw [hdefined]
        exact .single hdefined
    · obtain ⟨hanswered, hkept⟩ := leaves_definition hrule halive hdefinition
      refine ⟨s.slot rule, ?_, halive, fun _ => hkept, fun hendless => absurd hendless hanswered⟩
      rw [Handle.concerning, if_neg hrule]
      exact .nil _

/-! ### Whole sessions -/

variable {commands : List Command}

/-- The rule is not dropped before any of the commands: a strong handle is left. -/
def Alive (s : Session) (rule : RuleId) (commands : List Command) : Prop :=
  ∀ m ∈ s.course commands, (m.session.slot rule).alive = true

theorem course_of_endless (h : (s.step command).1 = .endless) :
    s.course (command :: commands) = [⟨s, command⟩] := by
  rcases hstep : s.step command with ⟨answer, s'⟩
  rw [hstep] at h
  simp only at h
  subst h
  simp only [course, hstep]

theorem course_of_answered (h : (s.step command).1 ≠ .endless) :
    s.course (command :: commands) = ⟨s, command⟩ :: (s.step command).2.course commands := by
  rcases hstep : s.step command with ⟨answer, s'⟩
  rw [hstep] at h
  cases answer with
  | endless => exact absurd rfl h
  | _ => simp only [course, hstep]

theorem head_mem_course : ⟨s, command⟩ ∈ s.course (command :: commands) := List.mem_cons_self

/-- What a command does to a rule that is alive behind it. -/
theorem leads_step (halive : (s.slot rule).alive = true)
    (hanswer : (s.step command).1 ≠ .endless)
    (hleft : ((s.step command).2.slot rule).alive = true) :
    (s.phase rule).Leads (s.incidents rule command) ((s.step command).2.phase rule) := by
  obtain ⟨last, hleads, _, hlast, _⟩ := leads_perform command halive
  have hsweep : (s.step command).2.slot rule = (s.perform command).2.slot rule := by
    rcases (s.perform command).2.slot_sweep rule with hkept | hdropped
    · exact hkept
    · have hgone : ((s.step command).2.slot rule).alive = false := congrArg Slot.alive hdropped
      rw [hgone] at hleft
      cases hleft
  rw [phase, phase, hsweep, hlast hanswer]
  exact hleads

/-- **What happens to a rule in a session leads it from one phase to another.** -/
theorem leads_course (halive : s.Alive rule commands) :
    ∃ last, (s.phase rule).Leads (s.history rule commands) ⟨last, false⟩ := by
  induction commands generalizing s with
  | nil => exact ⟨_, .nil _⟩
  | cons command rest ih =>
    have hfirst := halive _ head_mem_course
    by_cases hanswer : (s.step command).1 = .endless
    · obtain ⟨last, hleads, _⟩ := leads_perform command hfirst
      rw [history, course_of_endless hanswer, List.flatMap_singleton]
      exact ⟨last, hleads⟩
    · rw [Alive, course_of_answered hanswer] at halive
      rw [history, course_of_answered hanswer, List.flatMap_cons]
      cases rest with
      | nil =>
        obtain ⟨last, hleads, _⟩ := leads_perform command hfirst
        rw [course, List.flatMap_nil, List.append_nil]
        exact ⟨last, hleads⟩
      | cons next rest =>
        have hleads := leads_step hfirst hanswer (halive _ (.tail _ head_mem_course))
        obtain ⟨last, hmore⟩ := ih fun m hm => halive m (.tail _ hm)
        exact ⟨last, hleads.append hmore⟩

theorem sound_phase (halive : (s.slot rule).alive = true) : (s.phase rule).Sound :=
  ⟨halive, nofun⟩

/-- **A rule that is defined is so behind each command.** -/
theorem isDefined_perform (hdefined : (s.slot rule).isDefined = true) :
    ((s.perform command).2.slot rule).isDefined = true := by
  have halive := Slot.alive_of_isDefined hdefined
  obtain ⟨last, ⟨hproper, hend⟩, _, hlast, hendless⟩ := leads_perform command halive
  by_cases hanswer : (s.perform command).1 = .endless
  · rw [hendless hanswer]
    exact hdefined
  · have hkept := hproper.lost_while_running (sound_phase halive) (.inl hdefined)
    rw [hend] at hkept
    rw [hlast hanswer]
    exact hkept.resolve_right Bool.false_ne_true

/-- A rule that is defined is so in the course of all commands. -/
theorem isDefined_course (halive : s.Alive rule commands)
    (hdefined : (s.slot rule).isDefined = true) :
    ∀ m ∈ s.course commands, (m.session.slot rule).isDefined = true := by
  induction commands generalizing s with
  | nil => exact fun _ hm => nomatch hm
  | cons command rest ih =>
    intro m hm
    by_cases hanswer : (s.step command).1 = .endless
    · rw [course_of_endless hanswer] at hm
      rw [List.mem_singleton.mp hm]
      exact hdefined
    · rw [Alive, course_of_answered hanswer] at halive
      rw [course_of_answered hanswer] at hm
      rcases List.mem_cons.mp hm with rfl | hm
      · exact hdefined
      · cases rest with
        | nil => cases hm
        | cons next rest =>
          have hstep : ((s.step command).2.slot rule).isDefined = true := by
            rcases (s.perform command).2.slot_sweep rule with hkept | hdropped
            · exact (congrArg Slot.isDefined hkept).trans (isDefined_perform hdefined)
            · have hleft := halive _ (.tail _ head_mem_course)
              cases (congrArg Slot.alive hdropped).symm.trans hleft
          exact ih (fun m hm => halive m (.tail _ hm)) hstep m hm

/-- From one moment to each later one, a rule that is defined remains so. -/
theorem isDefined_pairwise (halive : s.Alive rule commands) :
    (s.course commands).Pairwise fun m later =>
      (m.session.slot rule).isDefined = true → (later.session.slot rule).isDefined = true := by
  induction commands generalizing s with
  | nil => exact .nil
  | cons command rest ih =>
    by_cases hanswer : (s.step command).1 = .endless
    · rw [course_of_endless hanswer]
      exact List.pairwise_singleton _ _
    · have hall := fun hdefined => isDefined_course halive hdefined
      rw [Alive, course_of_answered hanswer] at halive
      rw [course_of_answered hanswer] at hall ⊢
      exact .cons (fun later hlater hdefined => hall hdefined later (.tail _ hlater))
        (ih fun m hm => halive m (.tail _ hm))

/-- The rule is written once in the course of the commands. -/
structure WrittenOnce (s : Session) (rule : RuleId) (commands : List Command) : Prop where
  /-- Each incident is permitted by the cells as the earlier ones have left them, also what
      factories do while they run: a definition is taken exactly if the rule has neither a
      factory nor a body, and is refused otherwise; the answer to whether it is defined is
      true exactly if it has one of them. -/
  proper : (s.phase rule).Proper (s.history rule commands)
  began_once : ((s.history rule commands).filter Incident.isBegan).length ≤ 1
  /-- The factory is begun by a run.  All other commands leave it unused. -/
  began_by_run : ∀ m ∈ s.course commands, m.command.runs = false →
    .began ∉ m.incidents rule ∧
      (m.outcome.2.slot rule).factory = (m.session.slot rule).factory
  /-- The command to define is done exactly if the rule has neither a factory nor a body,
      which then is the one given.  Otherwise it is refused, and the rule stays as it is. -/
  defines : ∀ m ∈ s.course commands, ∀ h p, m.session.definition? m.command = some (h, p) →
    h.rule.index = rule.index →
      (m.outcome.1 = .done ↔ (m.session.slot rule).isDefined = false) ∧
      ((m.session.slot rule).isDefined = false → m.outcome.2.slot rule = .defined p) ∧
      ((m.session.slot rule).isDefined = true → m.outcome.1 = .error (.ruleRedefined h.rule) ∧
        m.outcome.2.slot rule = m.session.slot rule)
  /-- What is defined at one moment is so at each later one and in the end, and the answer
      to whether it is tells so. -/
  stays_defined : (s.course commands).Pairwise fun m later =>
    (m.session.slot rule).isDefined = true → (later.session.slot rule).isDefined = true
  keeps_defined : ∀ m ∈ s.course commands, (m.session.slot rule).isDefined = true →
    (m.outcome.2.slot rule).isDefined = true
  tells_defined : ∀ m ∈ s.course commands, ∀ name h, m.command = .isDefined name →
    m.session.world.registry.handles.lookup name = some h → h.rule.index = rule.index →
      m.outcome.1 = .flag (m.session.slot rule).isDefined
  /-- Between any two incidents, those within a run included, what is defined becomes
      undefined only while the factory of the rule runs. -/
  lost_while_running : ∀ first second, first ++ second <+: s.history rule commands →
    ((s.phase rule).afterAll first).slot.isDefined = true →
      ((s.phase rule).afterAll (first ++ second)).slot.isDefined = true ∨
        ((s.phase rule).afterAll (first ++ second)).running = true
  /-- All bodies of the rule that are run, through whatever handles, are the same one: the
      one that it has at first, or else the one it is given, or else the product of its
      factory. -/
  one_body : ∀ body other, .ran body ∈ s.history rule commands →
    .ran other ∈ s.history rule commands → body = other
  first_body : ∀ body known, .ran body ∈ s.history rule commands →
    (s.slot rule).body = some known → body = known
  given_body : ∀ body p, .ran body ∈ s.history rule commands →
    .given p ∈ s.history rule commands → body = p
  produced_body : ∀ body product, .ran body ∈ s.history rule commands →
    (∀ p, .given p ∉ s.history rule commands) → .ended product ∈ s.history rule commands →
      body = product
  origin : ∀ body, .ran body ∈ s.history rule commands → (s.slot rule).body = some body ∨
    .given body ∈ s.history rule commands ∨ .ended body ∈ s.history rule commands
  /-- Where the rule has neither a factory nor a body, a run of it reports so and changes
      nothing, in whatever world. -/
  missed : ∀ (w : World) h c, h.rule.index = rule.index → (w.book.slot rule).isDefined = false →
    World.run (.rule h) c w = some (.defect (.undefinedRule h.rule c), w)

theorem errand_of_not_runs (hruns : command.runs = false) : s.errand? command = none := by
  cases command with
  | parse | run => cases hruns
  | _ => rfl

/-- Other commands than runs leave the factory of a rule unused. -/
theorem factory_perform (hruns : command.runs = false) (halive : (s.slot rule).alive = true) :
    ((s.perform command).2.slot rule).factory = (s.slot rule).factory := by
  rcases hdefinition : s.definition? command with _ | ⟨h, p⟩
  · rw [(leaves_perform halive hdefinition (errand_of_not_runs hruns)).slot_eq]
  · by_cases hrule : h.rule.index = rule.index
    · rcases hdefined : (s.slot rule).isDefined with _ | _
      · rw [(definition_taken hrule halive hdefined hdefinition).2, Slot.factory_fill]
      · rw [(definition_refused hrule hdefined hdefinition).2]
    · rw [(leaves_definition hrule halive hdefinition).slot_eq]

theorem nothing_began (hruns : command.runs = false) : .began ∉ s.incidents rule command := by
  intro hbegan
  unfold incidents at hbegan
  rw [errand_of_not_runs hruns] at hbegan
  split at hbegan
  · have hmem := List.mem_singleton.mp (Handle.mem_concerning hbegan)
    split at hmem
    · cases hmem
    · cases hmem
  · cases List.mem_singleton.mp (Handle.mem_concerning hbegan)
  · rename_i herrand
    cases herrand
  · cases hbegan

/-- A run of a rule with neither a factory nor a body reports so, and changes nothing. -/
theorem run_undefined {w : World} {h : Handle} (hnone : (w.book.slot h.rule).isDefined = false)
    (c : Cursor) : World.run (.rule h) c w = some (.defect (.undefinedRule h.rule c), w) := by
  have hresolve := World.resolve_of_not_isDefined hnone
  exact World.call_of_unresolved (by rw [hresolve])

/-- **Rules are written once.**  Commands of any kind are carried out one after the other:
    definitions, runs, and whatever else a session can be asked to do, through any handles.
    As long as a strong handle of a rule is left, its factory is begun once at most, and by a
    run; a definition is taken exactly if the rule has neither a factory nor a body; what is
    defined remains so, except while its own factory runs; and every run that runs a body of
    the rule runs the same one.  Where there is none, a run reports so and changes nothing. -/
theorem written_once (halive : s.Alive rule commands) : s.WrittenOnce rule commands := by
  obtain ⟨last, hproper, hend⟩ := leads_course halive
  have hsound : commands ≠ [] → (s.phase rule).Sound := by
    intro hsome
    cases commands with
    | nil => exact absurd rfl hsome
    | cons command rest => exact sound_phase (halive _ head_mem_course)
  have hsome : ∀ {incident}, incident ∈ s.history rule commands → commands ≠ [] := by
    rintro incident hmem rfl
    cases hmem
  constructor
  case proper => exact hproper
  case began_once => exact hproper.began_once
  case began_by_run =>
    exact fun m hm hruns => ⟨nothing_began hruns, factory_perform hruns (halive m hm)⟩
  case defines =>
    intro m hm h p hdefinition hrule
    rcases hdefined : (m.session.slot rule).isDefined with _ | _
    · obtain ⟨hanswer, hgiven⟩ := definition_taken hrule (halive m hm) hdefined hdefinition
      refine ⟨iff_of_true hanswer rfl, fun _ => hgiven.trans ?_,
        fun h => absurd h Bool.false_ne_true⟩
      obtain ⟨hfactory, hbody⟩ := Slot.isDefined_eq_false_iff.mp hdefined
      rw [Slot.fill_of_alive (halive m hm)]
      exact Slot.ext hfactory (by rw [hbody]; rfl) rfl
    · obtain ⟨hanswer, hkept⟩ := definition_refused hrule hdefined hdefinition
      refine ⟨iff_of_false (fun hdone => ?_) Bool.false_ne_true.symm,
        fun h => absurd h.symm Bool.false_ne_true, fun _ => ⟨hanswer, hkept⟩⟩
      rw [Moment.outcome, hanswer] at hdone
      cases hdone
  case stays_defined => exact isDefined_pairwise halive
  case keeps_defined => exact fun m _ => isDefined_perform
  case tells_defined =>
    intro m _ name h hcommand hlookup hrule
    simp only [Moment.outcome, hcommand, perform, withHandle, hlookup, RuleBook.isDefined_eq,
      slot, RuleBook.slot_congr hrule]
  case lost_while_running =>
    rintro first second ⟨rest, hhistory⟩ hdefined
    rcases commands with _ | ⟨command, commands⟩
    · -- Nothing has happened yet.
      obtain ⟨rfl, rfl⟩ := List.append_eq_nil_iff.mp (List.append_eq_nil_iff.mp hhistory).1
      exact .inl hdefined
    · rw [← hhistory, Phase.proper_append, Phase.proper_append] at hproper
      rw [Phase.afterAll_append]
      exact hproper.1.2.lost_while_running (hsound (List.cons_ne_nil _ _)).afterAll (.inl hdefined)
  case one_body => exact fun body other => hproper.one_body
  case first_body =>
    intro body known hran hknown
    exact ((hproper.of_body hknown).2 _ hran).2.2 body rfl
  case given_body =>
    intro body p hran hgiven
    exact Option.some.inj ((hproper.body_of_ran hran).symm.trans
      (hproper.body_of_given (hsound (hsome hran)) hgiven))
  case produced_body =>
    intro body product hran hgiven hended
    exact Option.some.inj ((hproper.body_of_ran hran).symm.trans
      (hproper.body_of_ended (hsound (hsome hran)) (absurd · Bool.false_ne_true) hgiven hended))
  case origin => exact fun body hran => hproper.origin (hsound (hsome hran)) hran
  case missed =>
    intro w h c hrule hnone
    rw [← RuleBook.slot_congr hrule] at hnone
    exact run_undefined hnone c

/-- The factory of a rule asks whether the rule is defined, and defines it.  The rule is
    defined before and behind the run in which that happens, but not when the factory asks, and
    the definition is taken: the parser that the run gives the value of is that one, and not
    the one that the factory gave. -/
theorem undefined_while_developed :
    let factory : Factory Blueprint := .ask "r" fun known =>
      .define "r" (.leaf (.succeed (.bool known))) fun _ => .build (.leaf (.succeed .unit))
    let s := (empty.step (.defer "r" [] factory)).2
    (s.runAll [.isDefined "r", .parse (.kept "r") [] .whole, .isDefined "r"]).1 =
      [.flag true, .whole (.bool false) [], .flag true] := by
  rfl

/-- A rule is missed through a weak handle, gets its body through that, and is then run
    through both its handles; the second body is refused. -/
theorem written_once_through_weak_handle :
    let s := (empty.step (.declare "d")).2
    let rule : RuleId := ⟨0, "d"⟩
    let commands : List Command := [.downgrade "d" "w", .run (.kept "w") "g" ['a'] 0,
      .define "w" (.leaf (.char (.exactly 'a'))), .run (.kept "w") "g" ['a'] 0,
      .define "d" (.leaf (.take 1)), .isDefined "w", .run (.kept "d") "g" ['a'] 0]
    (s.course commands).map (fun m => (m.session.slot rule).isDefined) =
        [false, false, false, true, true, true, true] ∧ s.WrittenOnce rule commands := by
  intro s rule commands
  have hthere : (s.course commands).all (fun m => (m.session.slot rule).alive) = true := by
    decide +kernel
  exact ⟨by decide +kernel, written_once (List.all_eq_true.mp hthere)⟩

end Session

end Descent
