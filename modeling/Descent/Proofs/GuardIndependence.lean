/-
  Descent/Proofs/GuardIndependence.lean
  =====================================
  **Knowing more makes no difference** — to how a run ends.

  Two worlds have the same rules, and the same rules are being expanded in both; but
  the guard of the one holds outcomes that the guard of the other does not.  A parser
  is run in both.  They go on in step until a rule is asked whose outcome only the one
  has.  The other runs the body of the rule, and there it catches up: the guard that
  holds the outcome holds all that it was made of, so the body comes to the same reply,
  builds nothing, and meets no rule that is being expanded (`World.call_catchUp`).

  So both runs come to the same reply, and after it the worlds are in step again
  (`World.run_agree`).  This includes left recursion: the same rule is named, at the
  same place.
-/
import Descent.Proofs.Recoverable

namespace Descent

namespace World

variable {text : List Char} {start c : Cursor} {capacity n m : Nat} {h : Handle} {w w' u u' : World}
  {r : Reply} {body : Parser} {t : Dialogue}

/-! ### Worlds that know less -/

/-- The worlds have the same rules, and every outcome that the guard of `u` holds is held
    by that of `w`. -/
structure Trails (w u : World) : Prop where
  same : SameRules w u
  done : ∀ rule offset memo, u.guard.lookup? rule offset = some (.done memo) →
    w.guard.lookup? rule offset = some (.done memo)

/-- The same rules are being expanded in both worlds as well. -/
structure InStep (w u : World) : Prop extends Trails w u where
  expands_iff : ∀ key, u.guard.Expands key ↔ w.guard.Expands key

theorem Trails.noted (hu : Trails w u) (first second : Record) :
    Trails (w.note first) (u.note second) := ⟨⟨hu.same.book, hu.same.registry⟩, hu.done⟩

theorem InStep.lookup_none (hu : InStep w u)
    (hlookup : w.guard.lookup? h.rule c.offset = none) :
    u.guard.lookup? h.rule c.offset = none := by
  rcases hlookup' : u.guard.lookup? h.rule c.offset with _ | _ | memo
  · rfl
  · have hexpands : w.guard.lookup? h.rule c.offset = some .expanding :=
      (hu.expands_iff _).mp hlookup'
    rw [hlookup] at hexpands
    cases hexpands
  · rw [hu.done _ _ _ hlookup'] at hlookup
    cases hlookup

theorem InStep.opened (hu : InStep w u) (h : Handle) (c : Cursor) :
    InStep (w.opened h c) (u.opened h c) := by
  obtain ⟨_, hsame⟩ := hu.same.resolve h
  refine ⟨⟨⟨hsame.book, hsame.registry⟩, ?_⟩, fun key => ?_⟩
  · intro rule offset memo hlookup
    by_cases hkey : (rule.index, offset) = (h.rule.index, c.offset)
    · have hself : (u.opened h c).guard.lookup? rule offset = some .expanding := by
        rw [Guard.lookup?, hkey]
        exact Guard.lookup?_enter_self
      rw [hself] at hlookup
      cases hlookup
    · have hbefore := hu.done _ _ _ (Guard.lookup?_enter_done hlookup)
      exact (Guard.lookup?_enter_of_ne hkey).trans hbefore
  · simp only [World.opened, Guard.expands_enter, hu.expands_iff]

theorem InStep.closed (hu : InStep w u) (h : Handle) (c : Cursor) (r : Reply) :
    InStep (w.closed h c r) (u.closed h c r) := by
  refine ⟨⟨⟨hu.same.book, hu.same.registry⟩, ?_⟩, fun key => ?_⟩
  · intro rule offset memo hlookup
    by_cases hkey : (rule.index, offset) = (h.rule.index, c.offset)
    · rw [Guard.lookup?, hkey] at hlookup ⊢
      exact Guard.lookup?_leave_self.trans (Guard.lookup?_leave_self.symm.trans hlookup)
    · have hbefore : u.guard.lookup? rule offset = some (.done memo) :=
        (Guard.lookup?_leave_of_ne hkey).symm.trans hlookup
      exact (Guard.lookup?_leave_of_ne hkey).trans (hu.done _ _ _ hbefore)
  · simp only [World.closed, Guard.expands_leave, hu.expands_iff]

theorem Room.inStep (hw : w.Room start capacity n) (hu : InStep w u) :
    u.Room start capacity n := by
  obtain ⟨keys, hkeys, hexpands, hroom⟩ := hw.exists_keys
  refine ⟨?_, keys, hkeys, fun key hkey => ?_, hroom⟩
  · rw [hu.same.book]
    exact hw.capacity_le
  · exact (hu.expands_iff key).mpr (hexpands key hkey)

/-! ### Catching up -/

/-- The world `u`, in a run from `start` with room for `n` more expansions, is about to
    find what is found in `w` to the depth `m`: none of it is being expanded in `u`. -/
structure Following (text : List Char) (start : Cursor) (capacity n m : Nat) (w u : World) :
    Prop extends Trails w u where
  clear : ∀ h c r, c.Over text → u.guard.Expands (h.rule.index, c.offset) → ¬ w.Found m h c r
  sure : u.guard.Sure text
  room : u.Room start capacity n

namespace Following

theorem of_succ (hu : Following text start capacity n (m + 1) w u) :
    Following text start capacity n m w u :=
  ⟨hu.toTrails, fun h c r hc hexpands hfound => hu.clear h c r hc hexpands hfound.succ,
    hu.sure, hu.room⟩

/-- The rule that `u` is about to expand is found in `w`, but to no depth that its body
    can do with. -/
theorem opened (hu : Following text start capacity (n + 1) (m + 1) w u) (hc : c.Over text)
    (hstart : start.Reaches c) (hslot : (u.book.slot h.rule).body = some body)
    (hlookup : u.guard.lookup? h.rule c.offset = none) (hnot : ∀ r, ¬ w.Found m h c r) :
    Following text start capacity n m w (u.opened h c) := by
  have hresolve := resolve_of_body hslot
  have hbody : (u.resolve h).1 = some body := congrArg Prod.fst hresolve
  refine ⟨⟨?_, ?_⟩, ?_, hu.sure.enter h.rule c.offset, hu.room.opened hstart hbody hlookup⟩
  · rw [World.opened, hresolve]
    exact ⟨hu.same.book, hu.same.registry⟩
  · intro rule offset memo hdone
    exact hu.done rule offset memo (Guard.lookup?_enter_done hdone)
  · intro k d r hd hexpands hfound
    rcases Guard.expands_enter.mp hexpands with hkey | hbefore
    · rw [Prod.mk.injEq] at hkey
      obtain rfl : d = c := hd.eq_of_offset hc hkey.2
      exact hnot r (hfound.congr hkey.1.symm)
    · exact hu.clear k d r hd hbefore hfound.succ

theorem call {n' : Nat} (hu : Following text start capacity n m w u) (hc : c.Over text)
    (hcall : World.call n' h c u = some (r, u')) (htrails : Trails w u') :
    Following text start capacity n m w u' := by
  refine ⟨htrails, ?_, (call_sure hc hu.sure hcall).1, hu.room.call hc hu.sure hcall⟩
  intro k d r' hd hexpands
  exact hu.clear k d r' hd ((expands_call hc hu.sure hcall _).mp hexpands)

end Following

/-- A dialogue that is recalled from what is found in `w` is held in `u` as well, if the
    rules can be asked there. -/
theorem hold_catchUp
    (hcall : ∀ {n : Nat} {k : Handle} {d : Cursor} {u : World} {r : Reply}, d.Over text →
      start.Reaches d → Following text start capacity n m w u → w.Found m k d r →
      ∃ u', call n k d u = some (r, u') ∧ Trails w u')
    (hc : c.Over text) (hstart : start.Reaches c) (ht : t.Orderly c)
    (hu : Following text start capacity n m w u) (hrecalls : t.Recalls (w.Found m) r) :
    ∃ u', t.hold (call n) u = some (r, u') ∧ Trails w u' := by
  induction t generalizing u with
  | finish r' =>
    cases hrecalls
    exact ⟨u, rfl, hu.toTrails⟩
  | endless => exact hrecalls.elim
  | started p d next ih => exact ih ht hu hrecalls
  | fellShort stop next ih =>
    exact ih (u := u.note (.fellShort stop)) ht
      ⟨⟨⟨hu.same.book, hu.same.registry⟩, hu.done⟩, hu.clear, hu.sure, hu.room.capacity_le,
        hu.room.exists_keys⟩ hrecalls
  | tally label next ih =>
    exact ih (u := u.tally label) ht
      ⟨⟨⟨hu.same.book, hu.same.registry⟩, hu.done⟩, hu.clear, hu.sure, hu.room.capacity_le,
        hu.room.exists_keys⟩ hrecalls
  | ask k d next ih =>
    obtain ⟨r₁, hfound, hr₁, hnext⟩ := hrecalls
    have hd := hc.reaches ht.reaches
    obtain ⟨u₁, hask, htrails⟩ := hcall hd (hstart.trans ht.reaches) hu hfound
    have horderly := ht.after hr₁ (call_sure hd hu.sure hask).2
    rw [Dialogue.hold_ask_of_reply hask hr₁]
    exact ih r₁ horderly (hu.call hd hask htrails) hnext

/-- **What is found in `w` is found in `u`**, by running the rule there. -/
theorem call_catchUp (m : Nat) (hc : c.Over text) (hstart : start.Reaches c)
    (hu : Following text start capacity n m w u) (hfound : w.Found m h c r) :
    ∃ u', call n h c u = some (r, u') ∧ Trails w u' := by
  induction m generalizing n h c u r with
  | zero => exact hfound.elim
  | succ m ih =>
    obtain ⟨n, rfl⟩ := Nat.exists_eq_succ_of_ne_zero (Nat.ne_of_gt hu.room.pos)
    by_cases hless : ∃ r', w.Found m h c r'
    · -- A smaller depth will do, and the reply is the same: it is the one in the guard.
      obtain ⟨r', hless⟩ := hless
      obtain ⟨memo, hlookup, rfl⟩ := hfound.lookup
      obtain ⟨memo', hlookup', rfl⟩ := hless.lookup
      rw [hlookup] at hlookup'
      cases hlookup'
      exact ih hc hstart hu.of_succ hless
    · have hexpands := hu.clear h c r hc
      obtain ⟨memo, body, hlookup, rfl, hslot, hrecalls⟩ := hfound
      have hslot' : (u.book.slot h.rule).body = some body := by
        rw [hu.same.book]
        exact hslot
      have hresolve := resolve_of_body hslot'
      rw [call_of_resolved (congrArg Prod.fst hresolve)]
      rcases hlookup' : u.guard.lookup? h.rule c.offset with _ | _ | memo'
      · have hopened := hu.opened hc hstart hslot' hlookup' fun r' hr' => hless ⟨r', hr'⟩
        obtain ⟨u₁, hhold, htrails⟩ :=
          hold_catchUp ih hc hstart (body.orderly_dialogue c) hopened hrecalls
        rw [← Parser.matcher_eq_hold] at hhold
        refine ⟨u₁.closed h c (memo.restore c), ?_, ⟨htrails.same.book, htrails.same.registry⟩, ?_⟩
        · simp only [hhold]
        · intro rule offset memo' hdone
          rcases Guard.lookup?_leave_done hdone with ⟨hindex, hoffset, hmemo⟩ | hbefore
          · rw [Memo.ofReply?_restore] at hmemo
            cases hmemo
            rw [Guard.lookup?, hindex, hoffset]
            exact hlookup
          · exact htrails.done rule offset memo' hbefore
      · exact absurd ⟨memo, body, hlookup, rfl, hslot, hrecalls⟩ (hexpands hlookup')
      · have hsame := hu.done _ _ _ hlookup'
        rw [hlookup] at hsame
        cases hsame
        refine ⟨(u.resolve h).2.note (.served h.rule c.position), rfl, ?_⟩
        rw [hresolve]
        exact ⟨⟨hu.same.book, hu.same.registry⟩, hu.done⟩

/-! ### In step -/

/-- Both come to the same reply, in worlds that are in step, or neither comes back. -/
def Agree (x y : Option (Reply × World)) : Prop :=
  Option.Rel (fun a b => a.1 = b.1 ∧ InStep a.2 b.2) x y

theorem Agree.closed {x y : Option (Reply × World)} (h : Handle) (c : Cursor) :
    Agree x y → Agree
      (match x with
        | none => none
        | some (r, w) => some (r, w.closed h c r))
      (match y with
        | none => none
        | some (r, w) => some (r, w.closed h c r)) := by
  intro hxy
  cases hxy with
  | none => exact .none
  | @some a b hboth =>
    obtain ⟨r, w⟩ := a
    obtain ⟨r', u⟩ := b
    obtain ⟨rfl, hworlds⟩ := hboth
    exact .some ⟨rfl, hworlds.closed h c r⟩

/-- A dialogue that is held in worlds in step comes to the same reply, if the rules do
    that it asks. -/
theorem hold_agree
    (hcall : ∀ {k : Handle} {d : Cursor} {w u : World}, d.Over text → start.Reaches d →
      w.Grounded text → u.guard.Sure text → w.Room start capacity n → InStep w u →
      Agree (call n k d w) (call n k d u))
    (hc : c.Over text) (hstart : start.Reaches c) (ht : t.Orderly c) (hw : w.Grounded text)
    (hsure : u.guard.Sure text) (hroom : w.Room start capacity n) (hu : InStep w u) :
    Agree (t.hold (call n) w) (t.hold (call n) u) := by
  induction t generalizing w u with
  | finish r' => exact .some ⟨rfl, hu⟩
  | endless => exact .none
  | started p d next ih => exact ih ht hw hsure hroom hu
  | fellShort stop next ih =>
    exact ih (w := w.note (.fellShort stop)) (u := u.note (.fellShort stop)) ht
      (hw.later (fun _ _ _ => Iff.rfl) (.refl _)) hsure ⟨hroom.capacity_le, hroom.exists_keys⟩
      ⟨hu.toTrails.noted _ _, hu.expands_iff⟩
  | tally label next ih =>
    exact ih (w := w.tally label) (u := u.tally label) ht
      (hw.later (fun _ _ _ => Iff.rfl) (.refl _)) hsure ⟨hroom.capacity_le, hroom.exists_keys⟩
      ⟨⟨⟨hu.same.book, hu.same.registry⟩, hu.done⟩, hu.expands_iff⟩
  | ask k d next ih =>
    have hd := hc.reaches ht.reaches
    have hasked := hcall (k := k) hd (hstart.trans ht.reaches) hw hsure hroom hu
    rcases hask : call n k d w with _ | ⟨r₁, w₁⟩
    · rcases hask' : call n k d u with _ | _
      · rw [Dialogue.hold_ask_of_none hask, Dialogue.hold_ask_of_none hask']
        exact .none
      · rw [hask, hask'] at hasked
        cases hasked
    · rcases hask' : call n k d u with _ | ⟨r₂, u₁⟩
      · rw [hask, hask'] at hasked
        cases hasked
      · rw [hask, hask'] at hasked
        cases hasked with
        | some hboth =>
          obtain ⟨rfl, hu₁⟩ := hboth
          rcases hr₁ : Reply.defect? r₁ with _ | e
          · rw [Dialogue.hold_ask_of_reply hask hr₁, Dialogue.hold_ask_of_reply hask' hr₁]
            exact ih r₁ (ht.after hr₁ (call_sure hd hw.sure hask).2)
              (call_grounded n hd hw hask).1 (call_sure hd hsure hask').1
              (hroom.call hd hw.sure hask) hu₁
          · obtain rfl := Reply.eq_defect hr₁
            rw [Dialogue.hold_ask_of_defect hask, Dialogue.hold_ask_of_defect hask']
            exact .some ⟨rfl, hu₁⟩

/-- An outcome that the guard of `w` holds is found anew in `u`. -/
theorem agree_of_served {memo : Memo} (hc : c.Over text) (hstart : start.Reaches c)
    (hw : w.Grounded text) (hsure : u.guard.Sure text) (hroom : w.Room start capacity n)
    (hu : InStep w u) (hlookup : w.guard.lookup? h.rule c.offset = some (.done memo))
    (record : Record) :
    Agree (some (memo.restore c, (w.resolve h).2.note record)) (call n h c u) := by
  obtain ⟨m, hfound⟩ := hw.found h c memo hc hlookup
  have hfollowing : Following text start capacity n m w u := by
    refine ⟨hu.toTrails, ?_, hsure, hroom.inStep hu⟩
    intro k d r _ hexpands hfound'
    exact hfound'.not_expands ((hu.expands_iff _).mp hexpands)
  obtain ⟨u', hcall, htrails⟩ := call_catchUp m hc hstart hfollowing hfound
  obtain ⟨body, hslot⟩ := hfound.exists_body
  rw [hcall, resolve_of_body hslot]
  refine .some ⟨rfl, ⟨⟨htrails.same.book, htrails.same.registry⟩, htrails.done⟩, fun key => ?_⟩
  exact (expands_call hc hsure hcall key).trans (hu.expands_iff key)

/-- **A use of a rule comes to the same reply in worlds in step.** -/
theorem call_agree (n : Nat) (hc : c.Over text) (hstart : start.Reaches c) (hw : w.Grounded text)
    (hsure : u.guard.Sure text) (hroom : w.Room start capacity n) (hu : InStep w u) :
    Agree (call n h c w) (call n h c u) := by
  induction n generalizing h c w u with
  | zero => exact .none
  | succ n ih =>
    obtain ⟨hbody', hsame⟩ := hu.same.resolve h
    rcases hbody : (w.resolve h).1 with _ | body
    · rw [call_of_unresolved hbody, call_of_unresolved (hbody'.trans hbody)]
      exact .some ⟨rfl, hu⟩
    · rcases hlookup : w.guard.lookup? h.rule c.offset with _ | _ | memo
      · have hinner := hold_agree ih hc hstart (body.orderly_dialogue c) (hw.opened hlookup)
          (hsure.enter h.rule c.offset) (hroom.opened hstart hbody hlookup) (hu.opened h c)
        rw [call_of_resolved hbody, call_of_resolved (hbody'.trans hbody), hlookup,
          hu.lookup_none hlookup]
        simp only [Parser.matcher_eq_hold]
        exact hinner.closed h c
      · have hlookup' : u.guard.lookup? h.rule c.offset = some .expanding :=
          (hu.expands_iff _).mpr hlookup
        rw [call_of_resolved hbody, call_of_resolved (hbody'.trans hbody), hlookup, hlookup']
        refine .some ⟨rfl, ⟨⟨hsame.book, hsame.registry⟩, fun rule offset memo hdone => ?_⟩,
          fun key => ?_⟩
        · simp only [note, guard_resolve] at hdone ⊢
          exact hu.done rule offset memo hdone
        · simp only [note, guard_resolve]
          exact hu.expands_iff key
      · have hserved := agree_of_served hc hstart hw hsure hroom hu hlookup
          (.served h.rule c.position)
        rw [call_of_resolved hbody, hlookup]
        exact hserved

/-- **A run comes to the same reply in worlds in step**, or comes back in neither. -/
theorem run_agree {p : Parser} (hc : c.Over text) (hw : w.Grounded text)
    (hsure : u.guard.Sure text) (hu : InStep w u) : Agree (run p c w) (run p c u) := by
  have hdepth : u.depthLimit c = w.depthLimit c := by rw [depthLimit, depthLimit, hu.same.book]
  rw [run, run, hdepth, Parser.matcher_eq_hold, Parser.matcher_eq_hold]
  exact hold_agree (call_agree _) hc (.refl c) (p.orderly_dialogue c) hw hsure (.of_run c w) hu

end World

end Descent
