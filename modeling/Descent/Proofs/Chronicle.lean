/-
  Descent/Proofs/Chronicle.lean
  =============================
  **What happens in a run** — in order, and also where the run does not come back.

  Three kinds of event matter to whoever wants to know what became of a defect: a
  parser is started, a record is added to the journal, and a use of a rule comes to a
  reply.  A diary is a world with the events so far, and `Diary.call` is `World.call`
  with each of them written down.

  A run that does not come back leaves no state, and so no diary.  Its events are told
  along the dialogue of its parser (`World.runChronicle`).  Where the run does come
  back, these are the events of the diary, and its outcome is that of the run
  (`World.exact_runChronicle`).
-/
import Descent.Proofs.Expansion

namespace Descent

inductive Event where
  | started (p : Parser) (c : Cursor)
  | noted (record : Record)
  /-- A use of a rule at a cursor comes to a reply. -/
  | replied (h : Handle) (c : Cursor) (r : Reply)

def Event.record? : Event → Option Record
  | .noted record => some record
  | _ => none

/-! ### Diaries -/

/-- A world, with what has happened in it. -/
structure Diary where
  world : World
  events : List Event

def World.resolving (rule : RuleId) (w : World) : List Event :=
  match (w.book.slot rule).body, (w.book.slot rule).factory with
  | none, some _ => [.noted (.resolving rule)]
  | _, _ => []

namespace Diary

def note (record : Record) (s : Diary) : Diary :=
  ⟨s.world.note record, .noted record :: s.events⟩

instance : Watched Diary where
  note := note
  tally label s := ⟨s.world.tally label, s.events⟩
  started p c s := ⟨s.world, .started p c :: s.events⟩

def resolve (h : Handle) (s : Diary) : Option Parser × Diary :=
  ((s.world.resolve h).1, ⟨(s.world.resolve h).2, s.world.resolving h.rule ++ s.events⟩)

def reply (h : Handle) (c : Cursor) (r : Reply) (s : Diary) : Option (Reply × Diary) :=
  some (r, ⟨s.world, .replied h c r :: s.events⟩)

def call : (fuel : Nat) → Handle → Matcher Diary
  | 0, _, _, _ => none
  | fuel + 1, h, c, s =>
    match s.resolve h with
    | (none, s) => s.reply h c (.defect (.undefinedRule h.rule c))
    | (some body, s) =>
      match s.world.guard.lookup? h.rule c.offset with
      | some .expanding =>
        (s.note (.reentered h.rule c.position)).reply h c (.defect (.leftRecursion h.rule c))
      | some (.done memo) => (s.note (.served h.rule c.position)).reply h c (memo.restore c)
      | none =>
        let guard := s.world.guard.enter h.rule c.offset
        match body.watched (call fuel) c ⟨{ s.world with guard }, s.events⟩ with
        | none => none
        | some (r, s) => Diary.reply h c r ⟨s.world.closed h c r, s.events⟩

end Diary

/-! ### Chronicles -/

structure Chronicle where
  events : List Event
  outcome : Option (Reply × World)

namespace Chronicle

def after (first : List Event) (a : Chronicle) : Chronicle := ⟨first ++ a.events, a.outcome⟩

def inDiary (a : Chronicle) (events : List Event) : Option (Reply × Diary) :=
  a.outcome.map fun (r, w) => (r, ⟨w, a.events.reverse ++ events⟩)

theorem inDiary_after (a : Chronicle) (first events : List Event) :
    (a.after first).inDiary events = a.inDiary (first.reverse ++ events) := by
  simp [inDiary, after]

/-- The expansion of a rule, given what happens in its body. -/
def closing (h : Handle) (c : Cursor) (a : Chronicle) : Chronicle :=
  match a.outcome with
  | none => a
  | some (r, w) => ⟨a.events ++ [.replied h c r], some (r, w.closed h c r)⟩

end Chronicle

/-- What happens along a dialogue, given what happens when a rule is asked. -/
def Dialogue.chronicle (told : Handle → Cursor → World → Chronicle) :
    Dialogue → World → Chronicle
  | .finish r, w => ⟨[], some (r, w)⟩
  | .endless, _ => ⟨[], none⟩
  | .started p c next, w => (next.chronicle told w).after [.started p c]
  | .fellShort stop next, w =>
    (next.chronicle told (w.note (.fellShort stop))).after [.noted (.fellShort stop)]
  | .tally label next, w => next.chronicle told (w.tally label)
  | .ask h c next, w =>
    match (told h c w).outcome with
    | some (.success v d, w') =>
      ((next (.success v d)).chronicle told w').after (told h c w).events
    | some (.failure f, w') => ((next (.failure f)).chronicle told w').after (told h c w).events
    | _ => told h c w

namespace Dialogue

variable {told : Handle → Cursor → World → Chronicle} {k : Handle} {d : Cursor}
  {next : Reply → Dialogue} {w w' : World} {r : Reply}

theorem chronicle_ask_of_none (h : (told k d w).outcome = none) :
    (ask k d next).chronicle told w = told k d w := by
  simp only [chronicle, h]

theorem chronicle_ask_of_defect {e : Defect} (h : (told k d w).outcome = some (.defect e, w')) :
    (ask k d next).chronicle told w = told k d w := by
  simp only [chronicle, h]

theorem chronicle_ask_of_reply (h : (told k d w).outcome = some (r, w')) (hr : r.defect? = none) :
    (ask k d next).chronicle told w = ((next r).chronicle told w').after (told k d w).events := by
  cases r with
  | success v e => simp only [chronicle, h]
  | failure f => simp only [chronicle, h]
  | defect e => cases hr

end Dialogue

namespace World

/-- What happens in a use of a rule. -/
noncomputable def callChronicle : (fuel : Nat) → Handle → Cursor → World → Chronicle
  | 0, _, _, _ => ⟨[], none⟩
  | fuel + 1, h, c, w =>
    match (w.resolve h).1 with
    | none => ⟨[.replied h c (.defect (.undefinedRule h.rule c))],
        some (.defect (.undefinedRule h.rule c), w)⟩
    | some body =>
      match w.guard.lookup? h.rule c.offset with
      | some .expanding =>
        ⟨w.resolving h.rule ++ [.noted (.reentered h.rule c.position),
            .replied h c (.defect (.leftRecursion h.rule c))],
          some (.defect (.leftRecursion h.rule c),
            (w.resolve h).2.note (.reentered h.rule c.position))⟩
      | some (.done memo) =>
        ⟨w.resolving h.rule ++ [.noted (.served h.rule c.position),
            .replied h c (memo.restore c)],
          some (memo.restore c, (w.resolve h).2.note (.served h.rule c.position))⟩
      | none =>
        (((body.dialogue c).chronicle (callChronicle fuel) (w.opened h c)).closing h c).after
          (w.resolving h.rule)

noncomputable def runChronicle (p : Parser) (c : Cursor) (w : World) : Chronicle :=
  (p.dialogue c).chronicle (callChronicle (w.depthLimit c)) w

end World

/-! ### Chronicles tell what diaries tell -/

/-- The chronicle of something that is done from the world `w`: its outcome is the real
    one, a diary holds the same events, and the records are those of the journal. -/
structure Chronicle.Exact (w : World) (real : Option (Reply × World))
    (diary : List Event → Option (Reply × Diary)) (a : Chronicle) : Prop where
  outcome_eq : a.outcome = real
  diary_eq : ∀ events, diary events = a.inDiary events
  journal_eq : ∀ r w', a.outcome = some (r, w') →
    w'.journal = (a.events.filterMap Event.record?).reverse ++ w.journal

namespace Dialogue

variable {w : World} {n : Nat}

/-- The chronicle of a dialogue is exact if those of the rules are that it asks. -/
theorem exact_chronicle
    (hcall : ∀ h c w, Chronicle.Exact w (World.call n h c w)
      (fun events => Diary.call n h c ⟨w, events⟩) (World.callChronicle n h c w))
    (t : Dialogue) :
    Chronicle.Exact w (t.hold (World.call n) w) (fun events => t.hold (Diary.call n) ⟨w, events⟩)
      (t.chronicle (World.callChronicle n) w) := by
  induction t generalizing w with
  | finish r =>
    refine ⟨rfl, fun _ => rfl, ?_⟩
    rintro _ _ ⟨⟩
    rfl
  | endless => exact ⟨rfl, fun _ => rfl, fun _ _ h => nomatch h⟩
  | started p c next ih =>
    refine ⟨ih.outcome_eq, fun events => ?_, fun r w' h => ih.journal_eq r w' h⟩
    rw [chronicle, Chronicle.inDiary_after]
    exact ih.diary_eq (.started p c :: events)
  | fellShort stop next ih =>
    refine ⟨ih.outcome_eq, fun events => ?_, fun r w' h => ?_⟩
    · rw [chronicle, Chronicle.inDiary_after]
      exact ih.diary_eq (.noted (.fellShort stop) :: events)
    · rw [ih.journal_eq r w' h, chronicle]
      simp [Chronicle.after, Event.record?, World.note]
  | tally label next ih =>
    have htallied := ih (w := w.tally label)
    exact ⟨htallied.outcome_eq, htallied.diary_eq, htallied.journal_eq⟩
  | ask k d next ih =>
    obtain ⟨houtcome, hdiary, hjournal⟩ := hcall k d w
    rcases hasked : (World.callChronicle n k d w).outcome with _ | ⟨r, w₁⟩
    · have hask : World.call n k d w = none := by rw [← houtcome, hasked]
      have hask' : ∀ events, Diary.call n k d ⟨w, events⟩ = none := by
        intro events
        rw [hdiary events, Chronicle.inDiary, hasked]
        rfl
      rw [chronicle_ask_of_none hasked, hold_ask_of_none hask]
      refine ⟨hasked, fun events => ?_, hjournal⟩
      rw [hold_ask_of_none (hask' events), Chronicle.inDiary, hasked]
      rfl
    · have hask : World.call n k d w = some (r, w₁) := by rw [← houtcome, hasked]
      have hask' : ∀ events, Diary.call n k d ⟨w, events⟩ =
          some (r, ⟨w₁, (World.callChronicle n k d w).events.reverse ++ events⟩) := by
        intro events
        rw [hdiary events, Chronicle.inDiary, hasked]
        rfl
      rcases hr : r.defect? with _ | e
      · rw [chronicle_ask_of_reply hasked hr, hold_ask_of_reply hask hr]
        obtain ⟨houtcome', hdiary', hjournal'⟩ := ih r (w := w₁)
        refine ⟨houtcome', fun events => ?_, fun r' w' h => ?_⟩
        · rw [hold_ask_of_reply (hask' events) hr, Chronicle.inDiary_after]
          exact hdiary' _
        · rw [hjournal' r' w' h, hjournal r w₁ hasked]
          simp [Chronicle.after]
      · obtain rfl := Reply.eq_defect hr
        rw [chronicle_ask_of_defect hasked, hold_ask_of_defect hask]
        refine ⟨hasked, fun events => ?_, hjournal⟩
        rw [hold_ask_of_defect (hask' events), Chronicle.inDiary, hasked]
        rfl

end Dialogue

namespace World

variable {h : Handle} {c : Cursor} {w : World} {body : Parser}

theorem reverse_resolving (w : World) (rule : RuleId) :
    (w.resolving rule).reverse = w.resolving rule := by
  unfold resolving
  split <;> rfl

theorem resolving_of_body (hbody : (w.book.slot h.rule).body = some body) :
    w.resolving h.rule = [] := by
  simp only [resolving, hbody]

theorem resolving_of_not_isDefined (hnone : (w.book.slot h.rule).isDefined = false) :
    w.resolving h.rule = [] := by
  obtain ⟨hfactory, hbody⟩ := Slot.isDefined_eq_false_iff.mp hnone
  simp only [resolving, hfactory, hbody]

theorem journal_resolve (w : World) (h : Handle) :
    (w.resolve h).2.journal =
      ((w.resolving h.rule).filterMap Event.record?).reverse ++ w.journal := by
  rcases w.resolve_cases h with ⟨hnone, hrun⟩ | ⟨_, hbody, hrun⟩ | ⟨_, hbody, hfactory, hrun⟩
  · rw [hrun, resolving_of_not_isDefined hnone]
    rfl
  · rw [hrun, resolving_of_body hbody]
    rfl
  · rw [hrun]
    simp only [resolving, hbody, hfactory]
    rfl

theorem resolving_of_unresolved (hnone : (w.resolve h).1 = none) : w.resolving h.rule = [] :=
  resolving_of_not_isDefined (isDefined_of_unresolved hnone)

/-- The chronicle of a use of a rule that comes to the reply `r` at once, with one
    record. -/
theorem exact_of_noted (record : Record) (r : Reply) :
    Chronicle.Exact w (some (r, (w.resolve h).2.note record))
      (fun events => Diary.reply h c r (Diary.note record ((⟨w, events⟩ : Diary).resolve h).2))
      ⟨w.resolving h.rule ++ [.noted record, .replied h c r],
        some (r, (w.resolve h).2.note record)⟩ := by
  refine ⟨rfl, fun events => ?_, ?_⟩
  · simp [Diary.reply, Diary.note, Diary.resolve, Chronicle.inDiary, reverse_resolving]
  · rintro _ _ ⟨⟩
    simp [note, journal_resolve, Event.record?]

theorem exact_of_expanded {n : Nat} {a : Chronicle}
    (ha : a.Exact (w.opened h c) ((body.dialogue c).hold (call n) (w.opened h c))
      fun events => (body.dialogue c).hold (Diary.call n) ⟨w.opened h c, events⟩) :
    ((a.closing h c).after (w.resolving h.rule)).Exact w
      (match body.matcher (call n) c (w.opened h c) with
        | none => none
        | some (r, w) => some (r, w.closed h c r))
      fun events =>
        match body.watched (Diary.call n) c ⟨w.opened h c, w.resolving h.rule ++ events⟩ with
        | none => none
        | some (r, s) => Diary.reply h c r ⟨s.world.closed h c r, s.events⟩ := by
  obtain ⟨houtcome, hdiary, hjournal⟩ := ha
  simp only [Parser.hold_dialogue] at hdiary
  rw [Parser.matcher_eq_hold]
  rcases hended : a.outcome with _ | ⟨r, w₁⟩
  · have hreal : (body.dialogue c).hold (call n) (w.opened h c) = none := by rw [← houtcome, hended]
    rw [hreal]
    refine ⟨?_, fun events => ?_, fun r w' h => ?_⟩
    · simp only [Chronicle.after, Chronicle.closing, hended]
    · simp only [hdiary, Chronicle.inDiary, Chronicle.after, Chronicle.closing, hended,
        Option.map_none]
    · simp only [Chronicle.after, Chronicle.closing, hended] at h
      cases h
  · have hreal : (body.dialogue c).hold (call n) (w.opened h c) = some (r, w₁) := by
      rw [← houtcome, hended]
    rw [hreal]
    refine ⟨?_, fun events => ?_, fun r' w' h => ?_⟩
    · simp only [Chronicle.after, Chronicle.closing, hended]
    · simp [hdiary, Chronicle.inDiary, Chronicle.after, Chronicle.closing, hended, Diary.reply,
        reverse_resolving]
    · simp only [Chronicle.after, Chronicle.closing, hended, Option.some.injEq,
        Prod.mk.injEq] at h
      obtain ⟨rfl, rfl⟩ := h
      have hopened : (w.opened h c).journal = (w.resolve h).2.journal := rfl
      show w₁.journal = _
      rw [hjournal r w₁ hended, hopened, journal_resolve]
      simp [Chronicle.after, Chronicle.closing, hended, Event.record?]

/-- **The chronicle of every use of a rule is exact.** -/
theorem exact_callChronicle (n : Nat) (h : Handle) (c : Cursor) (w : World) :
    Chronicle.Exact w (call n h c w) (fun events => Diary.call n h c ⟨w, events⟩)
      (callChronicle n h c w) := by
  induction n generalizing h c w with
  | zero => exact ⟨rfl, fun _ => rfl, fun _ _ h => nomatch h⟩
  | succ n ih =>
    rcases hbody : (w.resolve h).1 with _ | body
    · have hsame := resolve_of_none hbody
      have hquiet := resolving_of_unresolved hbody
      rw [call_of_unresolved hbody]
      simp only [callChronicle, Diary.call, Diary.resolve, hbody, hquiet]
      refine ⟨rfl, fun events => ?_, ?_⟩
      · simp [Diary.reply, Chronicle.inDiary, hsame]
      · rintro _ _ ⟨⟩
        rfl
    · have hguard := w.guard_resolve h
      rw [call_of_resolved hbody]
      simp only [callChronicle, Diary.call, Diary.resolve, hbody, hguard]
      rcases hlookup : w.guard.lookup? h.rule c.offset with _ | _ | memo
      · have hinner := Dialogue.exact_chronicle ih (body.dialogue c) (w := w.opened h c)
        exact exact_of_expanded hinner
      · exact exact_of_noted _ _
      · exact exact_of_noted _ _

/-- **The chronicle of every run is exact.** -/
theorem exact_runChronicle (p : Parser) (c : Cursor) (w : World) :
    (runChronicle p c w).Exact w (run p c w)
      fun events => p.watched (Diary.call (w.depthLimit c)) c ⟨w, events⟩ := by
  have hexact := Dialogue.exact_chronicle (exact_callChronicle (w.depthLimit c)) (p.dialogue c)
    (w := w)
  simp only [Parser.hold_dialogue] at hexact
  have hrun : run p c w = p.watched (call (w.depthLimit c)) c w := by
    rw [run, Parser.matcher_eq_hold, Parser.hold_dialogue]
  rw [hrun]
  exact hexact

end World

end Descent
