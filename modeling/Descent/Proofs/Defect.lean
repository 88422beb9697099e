/-
  Descent/Proofs/Defect.lean
  ==========================
  **Nothing happens after a defect** — it goes through to the end, as it is.

  In a run that meets no defect every event is calm.  In one that does, the calm ends
  where a use of a rule replies with the defect.  A record of it comes right before, if
  it is left recursion; behind it come only the replies of the rules around, each with
  the same defect, and then the run is over (`Chronicle.Proper`).

  That no combinator recovers from a defect was seen when its dialogue was made: a
  dialogue ends with the defect that a rule replies, and makes up none
  (`Dialogue.Clean`).  The guard keeps no defect either.  No assumption is made on the
  guard, the cursor or the rules.
-/
import Descent.Proofs.Chronicle

namespace Descent

namespace Event

def defect? : Event → Option Defect
  | .replied _ _ r => r.defect?
  | _ => none

def Calm : Event → Prop
  | .started _ _ => True
  | .noted record => ∀ rule place, record ≠ .reentered rule place
  | .replied _ _ r => r.defect? = none

theorem Calm.defect? {event : Event} (h : event.Calm) : event.defect? = none := by
  cases event with
  | started | noted => rfl
  | replied k c r => exact h

end Event

/-- What is added to the journal right before a rule replies with a defect. -/
def Defect.alarm : Defect → List Event
  | .leftRecursion rule c => [.noted (.reentered rule c.position)]
  | .undefinedRule _ _ => []

theorem Defect.defect?_of_mem_alarm (e : Defect) {event : Event} (h : event ∈ e.alarm) :
    event.defect? = none := by
  cases e with
  | leftRecursion rule c =>
    rw [List.mem_singleton.mp h]
    rfl
  | undefinedRule => cases h

/-! ### Proper chronicles -/

namespace Chronicle

/-- All is calm and no defect comes of it, or the calm ends with a defect which is passed
    on to the end. -/
inductive Proper : Chronicle → Prop where
  | calm {events : List Event} {outcome : Option (Reply × World)}
    (hevents : ∀ event ∈ events, event.Calm)
    (houtcome : ∀ r w, outcome = some (r, w) → r.defect? = none) : Proper ⟨events, outcome⟩
  | broken {before behind : List Event} {h : Handle} {e : Defect} {w : World}
    (hbefore : ∀ event ∈ before, event.Calm) (hrule : h.rule = e.rule)
    (hbehind : ∀ event ∈ behind, ∃ k d, event = .replied k d (.defect e)) :
    Proper ⟨before ++ e.alarm ++ .replied h e.place (.defect e) :: behind,
      some (.defect e, w)⟩

namespace Proper

variable {a : Chronicle} {first : List Event} {h : Handle} {c : Cursor}

theorem after (ha : a.Proper) (hfirst : ∀ event ∈ first, event.Calm) :
    (a.after first).Proper := by
  cases ha with
  | calm hevents houtcome =>
    refine .calm (fun event hevent => ?_) houtcome
    rcases List.mem_append.mp hevent with hmem | hmem
    · exact hfirst event hmem
    · exact hevents event hmem
  | @broken before behind _ _ _ hbefore hrule hbehind =>
    have hcalm : ∀ event ∈ first ++ before, event.Calm := by
      intro event hevent
      rcases List.mem_append.mp hevent with hmem | hmem
      · exact hfirst event hmem
      · exact hbefore event hmem
    have hbroken := broken (w := ‹World›) hcalm hrule hbehind
    simp only [Chronicle.after, List.append_assoc] at hbroken ⊢
    exact hbroken

theorem calm_events (ha : a.Proper) (hnone : ∀ e w, a.outcome ≠ some (.defect e, w)) :
    ∀ event ∈ a.events, event.Calm := by
  cases ha with
  | calm hevents _ => exact hevents
  | broken => exact absurd rfl (hnone _ _)

theorem closing (ha : a.Proper) : (a.closing h c).Proper := by
  cases ha with
  | @calm events outcome hevents houtcome =>
    rcases outcome with _ | ⟨r, w⟩
    · exact .calm hevents houtcome
    · have hr := houtcome r w rfl
      refine .calm (fun event hevent => ?_) ?_
      · rcases List.mem_append.mp hevent with hmem | hmem
        · exact hevents event hmem
        · rw [List.mem_singleton.mp hmem]
          exact hr
      · rintro _ _ ⟨⟩
        exact hr
  | @broken before behind k e w hbefore hrule hbehind =>
    have hpassed : ∀ event ∈ behind ++ [.replied h c (.defect e)],
        ∃ k d, event = Event.replied k d (.defect e) := by
      intro event hevent
      rcases List.mem_append.mp hevent with hmem | hmem
      · exact hbehind event hmem
      · exact ⟨h, c, List.mem_singleton.mp hmem⟩
    have hbroken := broken (w := w.closed h c (.defect e)) hbefore hrule hpassed
    simp only [Chronicle.closing, List.append_assoc, List.cons_append] at hbroken ⊢
    exact hbroken

/-- The first reply with a defect is that of the rule that is to blame, at the place
    where the defect showed; behind it there are only replies with the same defect, and
    it is what comes of it all. -/
theorem exists_first {k : Handle} {d : Cursor} {e : Defect} (ha : a.Proper)
    (hmem : .replied k d (.defect e) ∈ a.events) :
    ∃ before behind h w, a.outcome = some (.defect e, w) ∧
      a.events = before ++ .replied h e.place (.defect e) :: behind ∧ h.rule = e.rule ∧
      (∀ event ∈ before, event.defect? = none) ∧
      ∀ event ∈ behind, ∃ k d, event = .replied k d (.defect e) := by
  cases ha with
  | calm hevents _ => exact nomatch hevents _ hmem
  | @broken before behind h e' w hbefore hrule hbehind =>
    have hcalm : ∀ event ∈ before ++ e'.alarm, event.defect? = none := by
      intro event hevent
      rcases List.mem_append.mp hevent with hmem | hmem
      · exact (hbefore event hmem).defect?
      · exact e'.defect?_of_mem_alarm hmem
    -- Every reply with a defect is with this one, the first as well as those behind it.
    have hsame : e = e' := by
      rcases List.mem_append.mp hmem with hmem | hmem
      · exact nomatch hcalm _ hmem
      · rcases List.mem_cons.mp hmem with heq | hmem
        · cases heq
          rfl
        · obtain ⟨_, _, heq⟩ := hbehind _ hmem
          cases heq
          rfl
    subst hsame
    exact ⟨before ++ e.alarm, behind, h, w, rfl, rfl, hrule, hcalm, hbehind⟩

theorem exists_replied {e : Defect} {w : World} (ha : a.Proper)
    (houtcome : a.outcome = some (.defect e, w)) :
    ∃ h, h.rule = e.rule ∧ .replied h e.place (.defect e) ∈ a.events := by
  cases ha with
  | calm _ hcalm => exact nomatch hcalm _ _ houtcome
  | @broken before behind h e' w' _ hrule _ =>
    cases houtcome
    exact ⟨h, hrule, List.mem_append_right _ List.mem_cons_self⟩

/-- The record of left recursion is made exactly if that is what comes of it. -/
theorem mem_reentered_iff {rule : RuleId} {place : Position} (ha : a.Proper) :
    .noted (.reentered rule place) ∈ a.events ↔
      ∃ d w, a.outcome = some (.defect (.leftRecursion rule d), w) ∧ d.position = place := by
  cases ha with
  | @calm events outcome hevents hcalm =>
    constructor
    · intro hmem
      exact absurd rfl (hevents _ hmem rule place)
    · rintro ⟨d, w, houtcome, _⟩
      exact nomatch hcalm _ _ houtcome
  | @broken before behind h e w hbefore _ hbehind =>
    constructor
    · intro hmem
      rcases List.mem_append.mp hmem with hmem | hmem
      · rcases List.mem_append.mp hmem with hmem | hmem
        · exact absurd rfl (hbefore _ hmem rule place)
        · cases e with
          | leftRecursion rule' d =>
            cases List.mem_singleton.mp hmem
            exact ⟨d, w, rfl, rfl⟩
          | undefinedRule => cases hmem
      · rcases List.mem_cons.mp hmem with heq | hmem
        · cases heq
        · obtain ⟨_, _, heq⟩ := hbehind _ hmem
          cases heq
    · rintro ⟨d, w', houtcome, rfl⟩
      cases houtcome
      exact List.mem_append_left _ (List.mem_append_right _ (List.mem_singleton_self _))

end Proper

end Chronicle

theorem World.calm_resolving (w : World) (rule : RuleId) :
    ∀ event ∈ w.resolving rule, event.Calm := by
  intro event hevent
  unfold World.resolving at hevent
  split at hevent
  · rw [List.mem_singleton.mp hevent]
    exact fun _ _ => Record.noConfusion
  · cases hevent

/-! ### Every chronicle is proper -/

/-- The chronicle of a dialogue is proper if those of the rules are that it asks. -/
theorem Dialogue.proper_chronicle {told : Handle → Cursor → World → Chronicle}
    (htold : ∀ h c w, (told h c w).Proper) {t : Dialogue} (ht : t.Clean) (w : World) :
    (t.chronicle told w).Proper := by
  induction t generalizing w with
  | finish r =>
    refine .calm (fun _ hevent => nomatch hevent) ?_
    rintro _ _ ⟨⟩
    exact ht
  | endless => exact .calm (fun _ hevent => nomatch hevent) fun _ _ h => nomatch h
  | started p c next ih =>
    refine (ih ht w).after fun event hevent => ?_
    rw [List.mem_singleton.mp hevent]
    trivial
  | fellShort stop next ih =>
    refine (ih ht _).after fun event hevent => ?_
    rw [List.mem_singleton.mp hevent]
    exact fun _ _ => Record.noConfusion
  | tally label next ih => exact ih ht _
  | ask k d next ih =>
    rcases hasked : (told k d w).outcome with _ | ⟨r, w₁⟩
    · rw [chronicle_ask_of_none hasked]
      exact htold k d w
    · rcases hr : r.defect? with _ | e
      · rw [chronicle_ask_of_reply hasked hr]
        refine (ih r (ht r hr) w₁).after ((htold k d w).calm_events fun e w' h => ?_)
        rw [hasked] at h
        cases h
        cases hr
      · obtain rfl := Reply.eq_defect hr
        rw [chronicle_ask_of_defect hasked]
        exact htold k d w

namespace World

/-- **The chronicle of every use of a rule is proper.** -/
theorem proper_callChronicle (n : Nat) (h : Handle) (c : Cursor) (w : World) :
    (callChronicle n h c w).Proper := by
  induction n generalizing h c w with
  | zero => exact .calm (fun _ hevent => nomatch hevent) fun _ _ h => nomatch h
  | succ n ih =>
    have hresolving := w.calm_resolving h.rule
    rw [callChronicle]
    rcases (w.resolve h).1 with _ | body
    · have hbroken : Chronicle.Proper ⟨[] ++ Defect.alarm (.undefinedRule h.rule c) ++
          [.replied h c (.defect (.undefinedRule h.rule c))],
          some (.defect (.undefinedRule h.rule c), w)⟩ := .broken (by simp) rfl (by simp)
      exact hbroken
    · rcases w.guard.lookup? h.rule c.offset with _ | _ | memo
      · have hbody := Dialogue.proper_chronicle ih (body.orderly_dialogue c).1 (w.opened h c)
        exact hbody.closing.after hresolving
      · have hbroken : Chronicle.Proper ⟨[] ++ Defect.alarm (.leftRecursion h.rule c) ++
            [.replied h c (.defect (.leftRecursion h.rule c))],
            some (.defect (.leftRecursion h.rule c),
              (w.resolve h).2.note (.reentered h.rule c.position))⟩ :=
          .broken (by simp) rfl (by simp)
        exact hbroken.after hresolving
      · have hserved : Chronicle.Proper ⟨[.noted (.served h.rule c.position),
            .replied h c (memo.restore c)],
            some (memo.restore c, (w.resolve h).2.note (.served h.rule c.position))⟩ := by
          refine .calm (fun event hevent => ?_) ?_
          · rcases List.mem_cons.mp hevent with rfl | hmem
            · exact fun _ _ => Record.noConfusion
            · rw [List.mem_singleton.mp hmem]
              exact memo.defect?_restore c
          · rintro _ _ ⟨⟩
            exact memo.defect?_restore c
        exact hserved.after hresolving

theorem proper_runChronicle (p : Parser) (c : Cursor) (w : World) :
    (runChronicle p c w).Proper :=
  Dialogue.proper_chronicle (proper_callChronicle _) (p.orderly_dialogue c).1 w

/-! ### Every run -/

/-- **A defect goes through to the end.**  If a use of a rule replies with a defect in the
    course of a run, then the run comes back, with that very defect.  The first such
    reply is that of the rule and the cursor that the defect is about, and nothing
    happens behind it but that the rules around reply with it in turn: no parser is
    started and no record made.  Conversely a run that comes back with a defect has it
    from a rule, and a record of left recursion is made exactly if the run comes back
    with left recursion, of that rule and at that place.

    The events are told whether or not the run comes back; where it does, they are those
    that a diary holds, and their records are those that the journal has gained. -/
theorem defect_final (p : Parser) (c : Cursor) (w : World) :
    let events := (runChronicle p c w).events
    (∀ k d e, .replied k d (.defect e) ∈ events →
      ∃ before behind h w', run p c w = some (.defect e, w') ∧
        events = before ++ .replied h e.place (.defect e) :: behind ∧ h.rule = e.rule ∧
        (∀ event ∈ before, event.defect? = none) ∧
        ∀ event ∈ behind, ∃ k d, event = .replied k d (.defect e)) ∧
    (∀ e w', run p c w = some (.defect e, w') →
      ∃ h, h.rule = e.rule ∧ .replied h e.place (.defect e) ∈ events) ∧
    (∀ rule place, .noted (.reentered rule place) ∈ events ↔
      ∃ d w', run p c w = some (.defect (.leftRecursion rule d), w') ∧ d.position = place) ∧
    ∀ r w', run p c w = some (r, w') →
      p.watched (Diary.call (w.depthLimit c)) c ⟨w, []⟩ = some (r, ⟨w', events.reverse⟩) ∧
      w'.journal = (events.filterMap Event.record?).reverse ++ w.journal := by
  intro events
  have hproper := proper_runChronicle p c w
  obtain ⟨houtcome, hdiary, hjournal⟩ := exact_runChronicle p c w
  rw [← houtcome]
  refine ⟨fun k d e hmem => hproper.exists_first hmem, fun e w' => hproper.exists_replied,
    fun rule place => hproper.mem_reentered_iff, fun r w' hrun => ⟨?_, hjournal r w' hrun⟩⟩
  rw [hdiary, Chronicle.inDiary, hrun, Option.map_some, List.append_nil]

/-- A rule that begins with itself is used in the first of two alternatives, under a
    repetition.  The other alternative, which would succeed, is not tried. -/
theorem defect_final_in_choice :
    let sum : Parser := .rule ⟨⟨0, "sum"⟩, true⟩
    let p : Parser := .choice false (.optional false (.many false sum)) (.take 1)
    let start : Cursor := .start ['a']
    let w : World := ⟨[.defined (.choice false (.and sum (.take 1)) (.take 1))], .empty, .empty,
      [], []⟩
    (∃ w', run p start w = some (.defect (.leftRecursion ⟨0, "sum"⟩ start), w')) ∧
      .noted (.reentered ⟨0, "sum"⟩ .start) ∈ (runChronicle p start w).events := by
  intro sum p start w
  have hrun : run p start w = some (.defect (.leftRecursion ⟨0, "sum"⟩ start), _) := rfl
  exact ⟨⟨_, hrun⟩, ((defect_final p start w).2.2.1 _ _).mpr ⟨start, _, hrun, rfl⟩⟩

end World

end Descent
