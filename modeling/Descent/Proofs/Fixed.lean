/-
  Descent/Proofs/Fixed.lean
  =========================
  **The same reply each time** — laws of combinators are about matchers that have one.

  A matcher leaves traces, and what it replies may depend on those that are there.  Its
  reply at a cursor is fixed on a set of states if it is the same in all of them, and if
  the matcher never leads out of the set (`Matcher.Fixed`).  What combinators make of
  fixed replies is fixed, and it is read off the replies alone.

  Rules and all, a parser has a fixed reply wherever it comes back: the set is that of all
  worlds with the same rules, none of them deferred, under any guard that runs over the
  text have filled (`World.fixed_of_reply`).  If it is steady it comes back everywhere
  (`World.constant_of_steady`).
-/
import Descent.Proofs.Distinct
import Descent.Proofs.Sharing
import Descent.Proofs.Termination

namespace Descent

namespace Reply

def mapValue (f : Value → Value) : Reply → Reply
  | .success v d => .success (f v) d
  | .failure g => .failure g
  | .defect e => .defect e

def isSuccess : Reply → Bool
  | .success _ _ => true
  | .failure _ | .defect _ => false

def moves (c : Cursor) : Reply → Bool
  | .success _ d => !d.sameSpot c
  | .failure _ | .defect _ => false

@[simp] theorem place_mapValue (f : Value → Value) (r : Reply) :
    (r.mapValue f).place = r.place := by
  cases r <;> rfl

end Reply

namespace Matcher

variable {σ : Type} {S : σ → Prop} {m p q : Matcher σ} {c d start : Cursor} {r : Reply} {v : Value}

/-- In each of the states the matcher replies `r` at the cursor, and is then in one of
    the states again. -/
def Fixed (S : σ → Prop) (m : Matcher σ) (c : Cursor) (r : Reply) : Prop :=
  ∀ s, S s → ∃ s', S s' ∧ m c s = some (r, s')

/-- At each cursor behind `start` the matcher has a fixed reply, which does not lie before
    the cursor. -/
def Constant (S : σ → Prop) (start : Cursor) (m : Matcher σ) : Prop :=
  ∀ c, start.Reaches c → ∃ r, m.Fixed S c r ∧ c.Reaches r.place

theorem Constant.from (hm : m.Constant S start) (hc : start.Reaches c) : m.Constant S c :=
  fun d hd => hm d (hc.trans hd)

namespace Fixed

/-! What is done behind a fixed reply is done in one of the states. -/

section Handle

variable {onSuccess : Value → Cursor → σ → Option (Reply × σ)}
  {onFailure : Failure → σ → Option (Reply × σ)}

theorem handle_success (hm : m.Fixed S c (.success v d))
    (hnext : ∀ s, S s → ∃ s', S s' ∧ onSuccess v d s = some (r, s')) :
    ∀ s, S s → ∃ s', S s' ∧ m.handle c s onSuccess onFailure = some (r, s') := by
  intro s hs
  obtain ⟨s₁, hs₁, hrun⟩ := hm s hs
  obtain ⟨s₂, hs₂, hrun'⟩ := hnext s₁ hs₁
  refine ⟨s₂, hs₂, ?_⟩
  rw [handle_of_success hrun]
  exact hrun'

theorem handle_failure {f : Failure} (hm : m.Fixed S c (.failure f))
    (hnext : ∀ s, S s → ∃ s', S s' ∧ onFailure f s = some (r, s')) :
    ∀ s, S s → ∃ s', S s' ∧ m.handle c s onSuccess onFailure = some (r, s') := by
  intro s hs
  obtain ⟨s₁, hs₁, hrun⟩ := hm s hs
  obtain ⟨s₂, hs₂, hrun'⟩ := hnext s₁ hs₁
  refine ⟨s₂, hs₂, ?_⟩
  rw [handle_of_failure hrun]
  exact hrun'

theorem handle_defect {e : Defect} (hm : m.Fixed S c (.defect e)) :
    ∀ s, S s → ∃ s', S s' ∧ m.handle c s onSuccess onFailure = some (.defect e, s') := by
  intro s hs
  obtain ⟨s₁, hs₁, hrun⟩ := hm s hs
  exact ⟨s₁, hs₁, handle_of_defect hrun⟩

/-- A reply that is no success is passed on by all that pass failures on. -/
theorem handle_of_not_success (hm : m.Fixed S c r) (hr : r.isSuccess = false) :
    ∀ s, S s → ∃ s', S s' ∧ m.handle c s onSuccess Matcher.fail = some (r, s') := by
  cases r with
  | success v d => cases hr
  | failure f => exact hm.handle_failure fun s hs => ⟨s, hs, rfl⟩
  | defect e => exact hm.handle_defect

end Handle

theorem map (f : Value → Value) (hm : m.Fixed S c r) : (m.map f).Fixed S c (r.mapValue f) := by
  cases r with
  | success v d => exact hm.handle_success fun s hs => ⟨s, hs, rfl⟩
  | failure g => exact hm.handle_of_not_success rfl
  | defect e => exact hm.handle_of_not_success rfl

theorem bind_success {next : Value → Matcher σ} (hm : m.Fixed S c (.success v d))
    (hnext : (next v).Fixed S d r) : (m.bind next).Fixed S c r :=
  hm.handle_success hnext

theorem bind_of_not_success {next : Value → Matcher σ} (hm : m.Fixed S c r)
    (hr : r.isSuccess = false) : (m.bind next).Fixed S c r :=
  hm.handle_of_not_success hr

theorem and_success (hp : p.Fixed S c (.success v d)) (hq : q.Fixed S d r) :
    (p.and q).Fixed S c (r.mapValue (.pair v)) := by
  refine hp.handle_success ?_
  cases r with
  | success w e => exact hq.handle_success fun s hs => ⟨s, hs, rfl⟩
  | failure f => exact hq.handle_of_not_success rfl
  | defect e => exact hq.handle_of_not_success rfl

theorem and_of_not_success (hp : p.Fixed S c r) (hr : r.isSuccess = false) :
    (p.and q).Fixed S c r :=
  hp.handle_of_not_success hr

end Fixed

theorem Constant.and (hp : p.Constant S start) (hq : q.Constant S start) :
    (p.and q).Constant S start := by
  intro c hc
  obtain ⟨x, hx, hplace⟩ := hp c hc
  cases x with
  | success v d =>
    obtain ⟨y, hy, hplace'⟩ := hq d (hc.trans hplace)
    refine ⟨_, hx.and_success hy, ?_⟩
    rw [Reply.place_mapValue]
    exact Cursor.Reaches.trans hplace hplace'
  | failure f => exact ⟨_, hx.and_of_not_success rfl, hplace⟩
  | defect e => exact ⟨_, hx.and_of_not_success rfl, hplace⟩

end Matcher

/-! ### Parsers with rules -/

namespace World

variable {text : List Char} {start c : Cursor} {w w' u : World} {r : Reply} {p : Parser}

/-- The world has the rules of `w`, no rule is being expanded in it, and its guard was
    filled by runs over the text. -/
structure Rested (text : List Char) (w u : World) : Prop where
  same : SameRules w u
  ready : u.ReadyFor text
  recorded : u.guard.Recorded text

/-- Where no rule is deferred, a run leaves the rules as they are. -/
theorem lasting_sameRules (hdeferred : ∀ rule, (w.book.slot rule).factory = none) :
    Lasting fun u => SameRules w u where
  note _ _ hu := ⟨hu.book, hu.registry⟩
  tally _ _ hu := ⟨hu.book, hu.registry⟩
  resolve h u hu :=
    ⟨(lasting_book hdeferred).resolve h u hu.book, (u.registry_resolve h).trans hu.registry⟩
  opened h _ u hu _ :=
    ⟨(lasting_book hdeferred).resolve h u hu.book,
      (u.registry_resolve h).trans hu.registry⟩
  closed _ _ _ _ _ _ _ hu := ⟨hu.book, hu.registry⟩

theorem Rested.matcher (hdeferred : ∀ rule, (w.book.slot rule).factory = none)
    (hc : c.Over text) (hu : Rested text w u) {n : Nat}
    (hrun : p.matcher (call n) c u = some (r, w')) : Rested text w w' := by
  have hkept := matcher_kept hc hu.ready.grounded.sure hrun
  refine ⟨?_, ⟨fun key hexpands => hu.ready.idle key ((hkept.expands_iff key).mp hexpands), ?_⟩,
    .ran hu.recorded hc hrun⟩
  · exact (matcher_keeps (lasting_sameRules hdeferred) hc
      ⟨hu.ready.grounded.sure, hu.same⟩ hrun).1.2
  · rw [Parser.matcher_eq_hold] at hrun
    exact (hold_grounded (call_grounded _) hc (p.orderly_dialogue c) hu.ready.grounded hrun).1

/-- Two rested worlds are both in step with one whose guard knows nothing. -/
theorem Rested.reply_eq (hstart : start.Over text) (hreach : start.Reaches c)
    (hw : w.ReadyFor text) (hu : Rested text w u) :
    (p.matcher (call (w.depthLimit start)) c w).map Prod.fst =
      (p.matcher (call (w.depthLimit start)) c u).map Prod.fst := by
  have hdepth : u.depthLimit start = w.depthLimit start := by
    rw [depthLimit, depthLimit, hu.same.book]
  let fresh : World := w.withGuard .empty
  have hempty : fresh.guard.entries = [] := rfl
  have hsure : fresh.guard.Sure text := .of_no_entries hempty
  have hstep : InStep w fresh := .of_no_entries ⟨rfl, rfl⟩ hw.idle hempty
  have hstep' : InStep u fresh :=
    .of_no_entries ⟨hu.same.book.symm, hu.same.registry.symm⟩ hu.ready.idle hempty
  have hroom : u.Room start u.book.capacity (w.depthLimit start) := hdepth ▸ Room.of_run start u
  have hc := hstart.reaches hreach
  have hagree := hold_agree (call_agree _) hc hreach (p.orderly_dialogue c) hw.grounded hsure
    (Room.of_run start w) hstep
  have hagree' := hold_agree (call_agree _) hc hreach (p.orderly_dialogue c) hu.ready.grounded hsure
    hroom hstep'
  rw [Parser.matcher_eq_hold, Parser.matcher_eq_hold]
  exact (map_fst_of_agree hagree).trans (map_fst_of_agree hagree').symm

/-- **A parser that comes back has a fixed reply**, in all worlds with the same rules and
    under all guards that runs over the text have filled. -/
theorem fixed_of_reply (hdeferred : ∀ rule, (w.book.slot rule).factory = none)
    (hstart : start.Over text) (hreach : start.Reaches c) (hw : w.ReadyFor text)
    (hrun : p.matcher (call (w.depthLimit start)) c w = some (r, w')) :
    Matcher.Fixed (Rested text w) (p.matcher (call (w.depthLimit start))) c r := by
  intro u hu
  have hreply := hu.reply_eq (p := p) hstart hreach hw
  rw [hrun, Option.map_some] at hreply
  obtain ⟨⟨r', u'⟩, hrun', rfl⟩ := Option.map_eq_some_iff.mp hreply.symm
  exact ⟨u', hu.matcher hdeferred (hstart.reaches hreach) hrun', hrun'⟩

/-- Steady parsers have fixed replies, wherever they are run. -/
theorem constant_of_steady
    (hdeferred : ∀ rule, (w.book.slot rule).factory = none)
    (hstart : start.Over text) (hw : w.ReadyFor text) (hguard : w.guard.Recorded text)
    (hsteady : w.Steady text) (hp : p.Steady (w.Consumes text)) :
    Matcher.Constant (Rested text w) start (p.matcher (call (w.depthLimit start))) := by
  intro c hc
  have hunderway : Underway text w start w.book.capacity (w.depthLimit start) w :=
    ⟨.here, hguard.sure, .of_run start w⟩
  obtain ⟨r, w', hrun, _, hplace⟩ :=
    returns_of_steady hstart (returns_call hstart hsteady _) hp c w hc hunderway
  exact ⟨r, fixed_of_reply hdeferred hstart hc hw hrun, hplace⟩

end World

end Descent
