/-
  Descent/Proofs/Phases.lean
  ==========================
  **Phases of a rule** — what can happen to its two cells, one thing after the other.

  A rule is missed when it is used and has neither a body nor a factory.  Its factory is
  begun by taking it out of its cell, and ended by putting the product into the other
  one; in between the factory is running, and the rule has neither.  A definition is given
  to a rule or refused, and someone may ask whether the rule is defined.  Each of these
  incidents is permitted by the cells as the earlier ones have left them, and changes them
  in one way (`Phase.permits`, `Phase.after`).

  From that alone follows what a rule is in the long run: its factory is begun once
  (`Phase.Proper.began_once`), it has one body, and where it was defined and is not, its
  factory is running (`Phase.Proper.lost_while_running`).
-/
import Descent.Proofs.Slots

namespace Descent

inductive Incident where
  /-- The rule is used, and has neither a body nor a factory. -/
  | missed
  | began
  | given (body : Parser)
  | refused
  /-- Someone asks whether the rule is defined, and is told so. -/
  | asked (known : Bool)
  /-- The factory has come to its product. -/
  | ended (product : Parser)
  | ran (body : Parser)

namespace Incident

def isBegan : Incident → Bool
  | began => true
  | _ => false

end Incident

/-- The cells of a rule, and whether its factory is running. -/
structure Phase where
  slot : Slot
  running : Bool

namespace Phase

def permits (phase : Phase) : Incident → Prop
  | .missed | .given _ => phase.slot.isDefined = false
  | .began => phase.slot.factory.isSome = true ∧ phase.slot.body = none
  | .refused => phase.slot.isDefined = true
  | .asked known => phase.slot.isDefined = known
  | .ended _ => phase.running = true
  | .ran body => phase.slot.body = some body

def after (phase : Phase) : Incident → Phase
  | .missed | .refused | .asked _ | .ran _ => phase
  | .began => ⟨phase.slot.take, true⟩
  | .given body => ⟨phase.slot.fill body, phase.running⟩
  | .ended product => ⟨phase.slot.fill product, false⟩

def afterAll (phase : Phase) (incidents : List Incident) : Phase := incidents.foldl after phase

def Proper : Phase → List Incident → Prop
  | _, [] => True
  | phase, incident :: rest => phase.permits incident ∧ (phase.after incident).Proper rest

/-- The incidents are permitted, each behind the ones before it, and lead from the one phase
    to the other. -/
structure Leads (first : Phase) (incidents : List Incident) (last : Phase) : Prop where
  proper : first.Proper incidents
  afterAll_eq : first.afterAll incidents = last

/-- While the factory runs there is none in its cell. -/
structure Sound (phase : Phase) : Prop where
  alive : phase.slot.alive = true
  taken : phase.running = true → phase.slot.factory = none

variable {phase : Phase} {incident : Incident} {first second incidents : List Incident}
  {p q body : Parser}

theorem afterAll_append :
    phase.afterAll (first ++ second) = (phase.afterAll first).afterAll second :=
  List.foldl_append

theorem proper_append :
    phase.Proper (first ++ second) ↔ phase.Proper first ∧ (phase.afterAll first).Proper second := by
  induction first generalizing phase with
  | nil => exact (true_and _).symm.to_iff
  | cons incident rest ih =>
    simp only [List.cons_append, Proper, ih, and_assoc]
    rfl

theorem proper_singleton : phase.Proper [incident] ↔ phase.permits incident :=
  iff_of_eq (and_true _)

theorem Leads.nil (phase : Phase) : phase.Leads [] phase := ⟨True.intro, rfl⟩

theorem Leads.single (h : phase.permits incident) :
    phase.Leads [incident] (phase.after incident) := ⟨proper_singleton.mpr h, rfl⟩

theorem Leads.append {middle last : Phase} (h : phase.Leads first middle)
    (h' : middle.Leads second last) : phase.Leads (first ++ second) last := by
  obtain ⟨hfirst, rfl⟩ := h
  obtain ⟨hsecond, rfl⟩ := h'
  exact ⟨proper_append.mpr ⟨hfirst, hsecond⟩, afterAll_append⟩

theorem Sound.after (h : phase.Sound) : (phase.after incident).Sound := by
  cases incident with
  | missed | refused | asked | ran => exact h
  | began => exact ⟨h.alive, fun _ => rfl⟩
  | given body =>
    exact ⟨(Slot.alive_fill _ _).trans h.alive,
      fun hrunning => (Slot.factory_fill _ _).trans (h.taken hrunning)⟩
  | ended product => exact ⟨(Slot.alive_fill _ _).trans h.alive, nofun⟩

theorem Sound.afterAll (h : phase.Sound) : (phase.afterAll incidents).Sound := by
  induction incidents generalizing phase with
  | nil => exact h
  | cons incident rest ih => exact ih h.after

/-! ### One step -/

theorem body_after_of_body (hbody : phase.slot.body = some body) :
    (phase.after incident).slot.body = some body := by
  cases incident with
  | missed | refused | asked | ran | began => exact hbody
  | given | ended =>
    simp only [after, Slot.fill_of_body hbody]
    exact hbody

theorem factory_after_of_none (hnone : phase.slot.factory = none) :
    (phase.after incident).slot.factory = none := by
  cases incident with
  | missed | refused | asked | ran => exact hnone
  | began => rfl
  | given | ended => exact (Slot.factory_fill _ _).trans hnone

/-- A rule that is filled has a body, the old one if there was one. -/
theorem body_fill (hsound : phase.Sound) :
    (phase.slot.fill p).body = some (phase.slot.body.getD p) := Slot.body_fill hsound.alive

/-- **A rule that is defined, or whose factory is running, remains so.** -/
theorem kept_after (hsound : phase.Sound) (hpermits : phase.permits incident)
    (hkept : phase.slot.isDefined = true ∨ phase.running = true) :
    (phase.after incident).slot.isDefined = true ∨ (phase.after incident).running = true := by
  cases incident with
  | missed | refused | asked | ran => exact hkept
  | began => exact .inr rfl
  | given | ended => exact .inl (Slot.isDefined_of_body (body_fill hsound))

namespace Proper

/-! ### One body -/

/-- **A body that is there is the only one that is run**, and it stays.  No other is given,
    and no factory begins. -/
theorem of_body (h : phase.Proper incidents) (hbody : phase.slot.body = some body) :
    (phase.afterAll incidents).slot.body = some body ∧ ∀ incident ∈ incidents,
      incident ≠ .began ∧ (∀ p, incident ≠ .given p) ∧ ∀ p, incident = .ran p → p = body := by
  induction incidents generalizing phase with
  | nil => exact ⟨hbody, fun _ hmem => nomatch hmem⟩
  | cons incident rest ih =>
    obtain ⟨hpermits, hrest⟩ := h
    obtain ⟨hlast, hall⟩ := ih hrest (body_after_of_body hbody)
    refine ⟨hlast, fun other hmem => ?_⟩
    rcases List.mem_cons.mp hmem with rfl | hmem
    · refine ⟨?_, ?_, ?_⟩
      · rintro rfl
        cases hbody.symm.trans hpermits.2
      · rintro p rfl
        have hnone : phase.slot.isDefined = false := hpermits
        rw [Slot.isDefined_of_body hbody] at hnone
        cases hnone
      · rintro p rfl
        exact Option.some.inj (hpermits.symm.trans hbody)
    · exact hall other hmem

/-- The body that is run once is there in the end. -/
theorem body_of_ran (h : phase.Proper incidents) (hran : .ran body ∈ incidents) :
    (phase.afterAll incidents).slot.body = some body := by
  induction incidents generalizing phase with
  | nil => cases hran
  | cons incident rest ih =>
    obtain ⟨hpermits, hrest⟩ := h
    rcases List.mem_cons.mp hran with rfl | hmem
    · exact (hrest.of_body hpermits).1
    · exact ih hrest hmem

/-- **All bodies that are run are the same one.** -/
theorem one_body (h : phase.Proper incidents) (hbody : .ran body ∈ incidents)
    (hother : .ran p ∈ incidents) : body = p :=
  Option.some.inj ((h.body_of_ran hbody).symm.trans (h.body_of_ran hother))

/-- A body that is given is there in the end, and was the first. -/
theorem body_of_given (h : phase.Proper incidents) (hsound : phase.Sound)
    (hgiven : .given p ∈ incidents) : (phase.afterAll incidents).slot.body = some p := by
  induction incidents generalizing phase with
  | nil => cases hgiven
  | cons incident rest ih =>
    obtain ⟨hpermits, hrest⟩ := h
    rcases List.mem_cons.mp hgiven with rfl | hmem
    · have hnone := (Slot.isDefined_eq_false_iff.mp hpermits).2
      have hbody : (phase.after (.given p)).slot.body = some p :=
        (body_fill hsound).trans (by rw [hnone, Option.getD_none])
      exact (hrest.of_body hbody).1
    · exact ih hrest hsound.after hmem

/-- Where there is a body and no factory is running, no factory ends. -/
theorem not_ended (h : phase.Proper incidents) (hbody : phase.slot.body = some body)
    (hidle : phase.running = false) : .ended q ∉ incidents := by
  induction incidents generalizing phase with
  | nil => exact List.not_mem_nil
  | cons incident rest ih =>
    obtain ⟨hpermits, hrest⟩ := h
    have hidle' : (phase.after incident).running = false := by
      cases incident with
      | missed | refused | asked | ran | given => exact hidle
      | began => cases hbody.symm.trans hpermits.2
      | ended => rfl
    intro hmem
    rcases List.mem_cons.mp hmem with rfl | hmem
    · exact absurd (hpermits.symm.trans hidle) (by simp)
    · exact ih hrest (body_after_of_body hbody) hidle' hmem

/-- **The product of the factory is the body**, if none was given. -/
theorem body_of_ended (h : phase.Proper incidents) (hsound : phase.Sound)
    (hvacant : phase.running = true → phase.slot.body = none)
    (hgiven : ∀ p, .given p ∉ incidents) (hended : .ended q ∈ incidents) :
    (phase.afterAll incidents).slot.body = some q := by
  induction incidents generalizing phase with
  | nil => cases hended
  | cons incident rest ih =>
    obtain ⟨hpermits, hrest⟩ := h
    have hgiven' : ∀ p, .given p ∉ rest := fun p hmem => hgiven p (.tail _ hmem)
    rcases List.mem_cons.mp hended with rfl | hmem
    · have hbody : (phase.after (.ended q)).slot.body = some q :=
        (body_fill hsound).trans (by rw [hvacant hpermits, Option.getD_none])
      exact (hrest.of_body hbody).1
    · cases incident with
      | missed | refused | asked | ran => exact ih hrest hsound hvacant hgiven' hmem
      | began => exact ih hrest hsound.after (fun _ => hpermits.2) hgiven' hmem
      | given p => exact absurd (.head _) (hgiven p)
      | ended product => exact absurd hmem (hrest.not_ended (body_fill hsound) rfl)

/-- A body that is run was there at first, or was given, or is the product of the factory. -/
theorem origin (h : phase.Proper incidents) (hsound : phase.Sound)
    (hran : .ran body ∈ incidents) : phase.slot.body = some body ∨ .given body ∈ incidents ∨
      .ended body ∈ incidents := by
  induction incidents generalizing phase with
  | nil => cases hran
  | cons incident rest ih =>
    obtain ⟨hpermits, hrest⟩ := h
    rcases List.mem_cons.mp hran with rfl | hmem
    · exact .inl hpermits
    · rcases ih hrest hsound.after hmem with hbody | hgiven | hended
      · cases incident with
        | missed | refused | asked | ran | began => exact .inl hbody
        | given p =>
          have hnone := (Slot.isDefined_eq_false_iff.mp hpermits).2
          rw [after, body_fill hsound, hnone, Option.getD_none, Option.some.injEq] at hbody
          rw [hbody]
          exact .inr (.inl (.head _))
        | ended product =>
          rw [after, body_fill hsound] at hbody
          rcases hbefore : phase.slot.body with _ | known
          · rw [hbefore, Option.getD_none, Option.some.injEq] at hbody
            rw [hbody]
            exact .inr (.inr (.head _))
          · rw [hbefore, Option.getD_some] at hbody
            exact .inl hbody
      · exact .inr (.inl (.tail _ hgiven))
      · exact .inr (.inr (.tail _ hended))

/-! ### One run of the factory -/

theorem nothing_began (h : phase.Proper incidents) (hnone : phase.slot.factory = none) :
    incidents.filter Incident.isBegan = [] := by
  induction incidents generalizing phase with
  | nil => rfl
  | cons incident rest ih =>
    obtain ⟨hpermits, hrest⟩ := h
    have hbegan : incident.isBegan = false := by
      cases incident with
      | began =>
        rw [permits, hnone] at hpermits
        cases hpermits.1
      | missed | given | refused | asked | ended | ran => rfl
    rw [List.filter_cons_of_neg (by rw [hbegan]; exact Bool.false_ne_true)]
    exact ih hrest (factory_after_of_none hnone)

/-- **The factory is begun once at most.** -/
theorem began_once (h : phase.Proper incidents) :
    (incidents.filter Incident.isBegan).length ≤ 1 := by
  induction incidents generalizing phase with
  | nil => exact Nat.zero_le 1
  | cons incident rest ih =>
    obtain ⟨_, hrest⟩ := h
    cases incident with
    | began =>
      rw [List.filter_cons_of_pos rfl, hrest.nothing_began rfl]
      exact Nat.le_refl 1
    | missed | given | refused | asked | ended | ran =>
      rw [List.filter_cons_of_neg Bool.false_ne_true]
      exact ih hrest

/-- **Where a rule was defined and is not, its factory is running.** -/
theorem lost_while_running (h : phase.Proper incidents) (hsound : phase.Sound)
    (hkept : phase.slot.isDefined = true ∨ phase.running = true) :
    (phase.afterAll incidents).slot.isDefined = true ∨
      (phase.afterAll incidents).running = true := by
  induction incidents generalizing phase with
  | nil => exact hkept
  | cons incident rest ih =>
    obtain ⟨hpermits, hrest⟩ := h
    exact ih hrest hsound.after (kept_after hsound hpermits hkept)

end Proper

end Phase

end Descent
