/-
  Descent/Proofs/Packrat.lean
  ===========================
  **No body is run twice at one place** — and so a run starts few bodies.

  A body is started only under a key that the guard knows nothing of.  Its key is in the
  guard from then on, as a mark and later as an outcome; only a defect takes it away
  again, and a defect ends the run.  So the guard at any moment is made up of what it
  held at the start and of the visits since (`World.Told`), and each visit is accounted
  for by these two (`Visit.Accounted`): a body is started under a key that neither knows,
  and a known outcome is one that the guard held or that a body came to.

  The rules whose bodies were started have their bodies, so there are no more of them
  than `RuleBook.bodyCount` counts, and they were started at places that the cursor of
  the run reaches.
-/
import Descent.Proofs.Depth
import Descent.Proofs.Visits
import Mathlib.Data.List.Induction

namespace Descent

/-! ### Rules that have a body -/

namespace RuleBook

/-- Rules that have their bodies are among those counted. -/
theorem card_le_bodyCount {book : RuleBook} {rules : Finset Nat}
    (hrules : ∀ index ∈ rules, ∃ rule : RuleId, rule.index = index ∧
      ∃ body, (book.slot rule).body = some body) : rules.card ≤ book.bodyCount := by
  induction book using List.reverseRecOn generalizing rules with
  | nil =>
    have hempty : rules = ∅ := by
      refine Finset.eq_empty_of_forall_notMem fun index hmem => ?_
      obtain ⟨rule, _, body, hslot⟩ := hrules index hmem
      cases hslot
    rw [hempty]
    exact Nat.zero_le _
  | append_singleton book last ih =>
    have hrest : (rules.erase book.length).card ≤ RuleBook.bodyCount book := by
      refine ih fun index hmem => ?_
      obtain ⟨hne, hindex⟩ := Finset.mem_erase.mp hmem
      obtain ⟨rule, rfl, body, hslot⟩ := hrules index hindex
      have hlt := index_lt_of_body hslot
      rw [List.length_append, List.length_singleton] at hlt
      rw [slot_append (by omega)] at hslot
      exact ⟨rule, rfl, body, hslot⟩
    rw [bodyCount_append]
    by_cases hmem : book.length ∈ rules
    · obtain ⟨rule, hindex, body, hslot⟩ := hrules _ hmem
      have hlast : RuleBook.slot (book ++ [last]) rule = last := by
        simp [RuleBook.slot, hindex]
      rw [hlast] at hslot
      have hone : 1 ≤ RuleBook.bodyCount [last] := by
        rw [bodyCount_of_isDefined (Slot.isDefined_of_body hslot)]
        exact Nat.le_add_right 1 _
      rw [← Finset.card_erase_add_one hmem]
      omega
    · rw [Finset.erase_eq_of_notMem hmem] at hrest
      omega

end RuleBook

/-! ### What accounts for a visit -/

def begun (visits : List Visit) : List (Nat × Nat) := visits.filterMap Visit.entered?

theorem begun_append (before after : List Visit) :
    begun (before ++ after) = begun before ++ begun after :=
  List.filterMap_append

theorem exists_of_mem_begun {key : Nat × Nat} {visits : List Visit} (hmem : key ∈ begun visits) :
    ∃ h c, Visit.entered h c ∈ visits ∧ (h.rule.index, c.offset) = key := by
  obtain ⟨v, hv, hkey⟩ := List.mem_filterMap.mp hmem
  cases v with
  | entered h c => exact ⟨h, c, hv, Option.some.inj hkey⟩
  | undefined | reentered | served | left => cases hkey

theorem begun_snoc_of_none {v : Visit} (past : List Visit) (hv : v.entered? = none) :
    begun (past ++ [v]) = begun past := by
  have hlast : begun [v] = [] := List.filterMap_cons_none hv
  rw [begun_append, hlast, List.append_nil]

def rulesBegun (visits : List Visit) : Finset Nat := ((begun visits).map Prod.fst).toFinset

/-- The reply is an outcome that the guard of `w` held for the rule at the cursor, or one
    that the body of the rule came to there. -/
def Replays (w : World) (past : List Visit) (h : Handle) (c : Cursor) (r : Reply) : Prop :=
  (∃ memo, w.guard.lookup? h.rule c.offset = some (.done memo) ∧ r = memo.restore c) ∨
    ∃ k, k.rule.index = h.rule.index ∧ .left k c r ∈ past

/-- The visit is accounted for by the world in which the run from `start` began and by
    the visits before it. -/
def Visit.Accounted (start : Cursor) (w : World) (past : List Visit) : Visit → Prop
  | .undefined h c => w.book.isDefined h = false ∧ (h.rule.index, c.offset) ∉ begun past
  | .reentered _ _ => True
  | .served h c r => Replays w past h c r
  | .entered h c =>
    w.guard.lookup? h.rule c.offset = none ∧ (h.rule.index, c.offset) ∉ begun past ∧
      start.Reaches c ∧ (rulesBegun (past ++ [.entered h c])).card ≤ w.book.bodyCount
  | .left _ _ _ => True

def AllAccounted (start : Cursor) (w : World) : (past visits : List Visit) → Prop
  | _, [] => True
  | past, v :: rest => v.Accounted start w past ∧ AllAccounted start w (past ++ [v]) rest

namespace AllAccounted

variable {start : Cursor} {w : World} {past before after : List Visit} {v : Visit}

theorem append (hbefore : AllAccounted start w past before)
    (hafter : AllAccounted start w (past ++ before) after) :
    AllAccounted start w past (before ++ after) := by
  induction before generalizing past with
  | nil =>
    rw [List.append_nil] at hafter
    exact hafter
  | cons v rest ih =>
    refine ⟨hbefore.1, ih hbefore.2 ?_⟩
    rw [List.append_assoc, List.singleton_append]
    exact hafter

theorem middle (h : AllAccounted start w past (before ++ v :: after)) :
    v.Accounted start w (past ++ before) := by
  induction before generalizing past with
  | nil =>
    rw [List.append_nil]
    exact h.1
  | cons first rest ih =>
    have hv := ih h.2
    rw [List.append_assoc, List.singleton_append] at hv
    exact hv

/-- What holds of the visits before and lasts from visit to visit holds of all. -/
theorem keeps {P : List Visit → Prop} {visits : List Visit}
    (hstep : ∀ past v, v.Accounted start w past → P past → P (past ++ [v]))
    (h : AllAccounted start w past visits) (hpast : P past) : P (past ++ visits) := by
  induction visits generalizing past with
  | nil =>
    rw [List.append_nil]
    exact hpast
  | cons v rest ih =>
    have hrest := ih h.2 (hstep past v h.1 hpast)
    rw [List.append_assoc, List.singleton_append] at hrest
    exact hrest

/-- **No body is started twice under one key.** -/
theorem nodup_begun {visits : List Visit} (h : AllAccounted start w [] visits) :
    (begun visits).Nodup := by
  refine h.keeps (P := fun visits => (begun visits).Nodup) ?_ List.nodup_nil
  intro past v hv hpast
  cases v with
  | entered k d =>
    have hfresh : (k.rule.index, d.offset) ∉ begun past := hv.2.1
    rw [begun_append]
    refine List.nodup_append.mpr ⟨hpast, List.nodup_singleton _, ?_⟩
    intro key hkey key' hkey' heq
    rw [List.mem_singleton.mp hkey'] at heq
    exact hfresh (heq ▸ hkey)
  | undefined | reentered | served | left =>
    rw [begun_snoc_of_none past rfl]
    exact hpast

theorem card_rulesBegun_le {visits : List Visit} (h : AllAccounted start w [] visits) :
    (rulesBegun visits).card ≤ w.book.bodyCount := by
  refine h.keeps (P := fun visits => (rulesBegun visits).card ≤ w.book.bodyCount) ?_ ?_
  · intro past v hv hpast
    cases v with
    | entered k d => exact hv.2.2.2
    | undefined | reentered | served | left =>
      rw [rulesBegun, begun_snoc_of_none past rfl]
      exact hpast
  · exact Nat.zero_le _

theorem accounted_of_mem {visits : List Visit} (h : AllAccounted start w [] visits)
    {k : Handle} {d : Cursor} (hmem : .entered k d ∈ visits) :
    w.guard.lookup? k.rule d.offset = none ∧ start.Reaches d := by
  obtain ⟨before, after, rfl⟩ := List.append_of_mem hmem
  exact ⟨h.middle.1, h.middle.2.2.1⟩

end AllAccounted

namespace World

/-! ### The guard as the visits tell it -/

/-- The guard of `u` is made up of what the guard of `w` held and of the visits since. -/
structure Told (text : List Char) (w : World) (past : List Visit) (u : World) : Prop where
  free : ∀ key, u.guard.entries.get? key = none →
    w.guard.entries.get? key = none ∧ key ∉ begun past
  done : ∀ key memo, u.guard.entries.get? key = some (.done memo) →
    w.guard.entries.get? key = some (.done memo) ∨
      ∃ h c, c.Over text ∧ (h.rule.index, c.offset) = key ∧ .left h c (memo.restore c) ∈ past
  bodies : ∀ h c, .entered h c ∈ past → ∃ body, (u.book.slot h.rule).body = some body
  live : ∀ rule, (w.book.slot rule).isDefined = true → (u.book.slot rule).isDefined = true
  bodyCount_le : u.book.bodyCount ≤ w.book.bodyCount

namespace Told

variable {text : List Char} {h : Handle} {c : Cursor} {w u u' : World} {r : Reply}
  {past : List Visit} {body : Parser}

theorem here (text : List Char) (w : World) : Told text w [] w where
  free _ hnone := ⟨hnone, List.not_mem_nil⟩
  done _ _ hdone := .inl hdone
  bodies _ _ hmem := nomatch hmem
  live _ hlive := hlive
  bodyCount_le := Nat.le_refl _

theorem congr (hu : Told text w past u) (hguard : u'.guard = u.guard) (hbook : u'.book = u.book) :
    Told text w past u' := by
  refine ⟨?_, ?_, ?_, ?_, ?_⟩
  · rw [hguard]
    exact hu.free
  · rw [hguard]
    exact hu.done
  · rw [hbook]
    exact hu.bodies
  · rw [hbook]
    exact hu.live
  · rw [hbook]
    exact hu.bodyCount_le

theorem resolve (hu : Told text w past u) (k : Handle) :
    Told text w past (u.resolve k).2 where
  free key hnone := by
    rw [guard_resolve] at hnone
    exact hu.free key hnone
  done key memo hdone := by
    rw [guard_resolve] at hdone
    exact hu.done key memo hdone
  bodies h d hmem := by
    obtain ⟨body, hslot⟩ := hu.bodies h d hmem
    exact ⟨body, u.grows_resolve k h.rule body hslot⟩
  live other hlive := isDefined_resolve k (hu.live other hlive)
  bodyCount_le := (u.bodyCount_resolve_le k).trans hu.bodyCount_le

theorem done_snoc (hu : Told text w past u) (v : Visit) {key : Nat × Nat} {memo : Memo}
    (hdone : u.guard.entries.get? key = some (.done memo)) :
    w.guard.entries.get? key = some (.done memo) ∨
      ∃ h c, c.Over text ∧ (h.rule.index, c.offset) = key ∧
        .left h c (memo.restore c) ∈ past ++ [v] := by
  rcases hu.done key memo hdone with hfirst | ⟨k, d, hd, hkey, hmem⟩
  · exact .inl hfirst
  · exact .inr ⟨k, d, hd, hkey, List.mem_append_left _ hmem⟩

theorem bodies_snoc (hu : Told text w past u) {v : Visit} (hv : v.entered? = none) (h : Handle)
    (c : Cursor) (hmem : .entered h c ∈ past ++ [v]) :
    ∃ body, (u.book.slot h.rule).body = some body := by
  rcases List.mem_append.mp hmem with hbefore | hlast
  · exact hu.bodies h c hbefore
  · rw [← List.mem_singleton.mp hlast] at hv
    cases hv

theorem served (hu : Told text w past u) (h : Handle) (c : Cursor) (r : Reply) (record : Record) :
    Told text w (past ++ [.served h c r]) ((u.resolve h).2.note record) where
  free key hnone := by
    rw [begun_snoc_of_none past rfl]
    exact (hu.resolve h).free key hnone
  done key memo hdone := (hu.resolve h).done_snoc _ hdone
  bodies := (hu.resolve h).bodies_snoc rfl
  live := (hu.resolve h).live
  bodyCount_le := (hu.resolve h).bodyCount_le

/-- The body of a rule is started. -/
theorem opened (hu : Told text w past u) (c : Cursor) (hbody : (u.resolve h).1 = some body) :
    Told text w (past ++ [.entered h c]) (u.opened h c) where
  free key hnone := by
    have hne : key ≠ (h.rule.index, c.offset) := by
      rintro rfl
      have hself : (u.guard.enter h.rule c.offset).lookup? h.rule c.offset = none := hnone
      rw [Guard.lookup?_enter_self] at hself
      cases hself
    have hbefore : u.guard.entries.get? key = none := by
      rw [← Guard.get?_enter_of_ne hne]
      exact hnone
    refine ⟨(hu.free key hbefore).1, ?_⟩
    rw [begun_append]
    intro hmem
    rcases List.mem_append.mp hmem with hpast | hlast
    · exact (hu.free key hbefore).2 hpast
    · exact hne (List.mem_singleton.mp hlast)
  done key memo hdone := by
    have hlookup : (u.guard.enter h.rule c.offset).lookup? ⟨key.1, ""⟩ key.2 = _ := hdone
    have hbefore : u.guard.lookup? ⟨key.1, ""⟩ key.2 = _ := Guard.lookup?_enter_done hlookup
    exact hu.done_snoc _ hbefore
  bodies k d hmem := by
    rcases List.mem_append.mp hmem with hbefore | hlast
    · exact (hu.resolve h).bodies k d hbefore
    · cases List.mem_singleton.mp hlast
      exact ⟨body, body_resolve hbody⟩
  live := (hu.resolve h).live
  bodyCount_le := (hu.resolve h).bodyCount_le

/-- The body of a rule has come to a reply.  A defect would leave no entry. -/
theorem closed (hu : Told text w past u) (h : Handle) (hc : c.Over text)
    (hr : r.defect? = none) (hplace : r.place.Over text) :
    Told text w (past ++ [.left h c r]) (u.closed h c r) where
  free key hnone := by
    obtain ⟨memo, hmemo⟩ := Memo.exists_ofReply? hr
    have hne : key ≠ (h.rule.index, c.offset) := by
      rintro rfl
      have hself : (u.guard.leave h.rule c.offset r).lookup? h.rule c.offset = none := hnone
      rw [Guard.lookup?_leave_self, hmemo] at hself
      cases hself
    have hbefore : u.guard.entries.get? key = none := by
      rw [← Guard.get?_leave_of_ne hne]
      exact hnone
    rw [begun_snoc_of_none past rfl]
    exact hu.free key hbefore
  done key memo hdone := by
    have hlookup : (u.guard.leave h.rule c.offset r).lookup? ⟨key.1, ""⟩ key.2 = _ := hdone
    rcases Guard.lookup?_leave_done hlookup with ⟨hindex, hoffset, hmemo⟩ | hbefore
    · refine .inr ⟨h, c, hc, Prod.ext hindex.symm hoffset.symm, List.mem_append_right _ ?_⟩
      rw [Memo.restore_eq hc hplace hmemo]
      exact List.mem_singleton_self _
    · exact hu.done_snoc _ hbefore
  bodies := hu.bodies_snoc rfl
  live := hu.live
  bodyCount_le := hu.bodyCount_le

/-! ### Each visit in turn -/

theorem accounted_undefined (hu : Told text w past u) (start c : Cursor)
    (hnone : (u.resolve h).1 = none) : (Visit.undefined h c).Accounted start w past := by
  constructor
  · rw [RuleBook.isDefined_eq]
    by_contra hlive
    have hdefined := hu.live h.rule (Bool.eq_true_of_not_eq_false hlive)
    rw [isDefined_of_unresolved hnone] at hdefined
    cases hdefined
  · intro hmem
    obtain ⟨k, d, hpast, hkey⟩ := exists_of_mem_begun hmem
    obtain ⟨body, hslot⟩ := hu.bodies k d hpast
    rw [RuleBook.slot_congr (Prod.mk.inj hkey).1] at hslot
    rw [resolve_of_body hslot] at hnone
    cases hnone

theorem accounted_served {memo : Memo} (hu : Told text w past u) (start : Cursor)
    (hc : c.Over text) (hlookup : u.guard.lookup? h.rule c.offset = some (.done memo)) :
    (Visit.served h c (memo.restore c)).Accounted start w past := by
  rcases hu.done _ memo hlookup with hfirst | ⟨k, d, hd, hkey, hmem⟩
  · exact .inl ⟨memo, hfirst, rfl⟩
  · obtain ⟨hindex, hoffset⟩ := Prod.mk.inj hkey
    obtain rfl : d = c := hd.eq_of_offset hc hoffset
    exact .inr ⟨k, hindex, hmem⟩

theorem accounted_entered {start : Cursor} (hu : Told text w past u) (hc : start.Reaches c)
    (hbody : (u.resolve h).1 = some body)
    (hlookup : u.guard.lookup? h.rule c.offset = none) :
    (Visit.entered h c).Accounted start w past := by
  obtain ⟨hfirst, hfresh⟩ := hu.free _ hlookup
  have hopened := hu.opened c hbody
  refine ⟨hfirst, hfresh, hc, ?_⟩
  -- At this moment, all rules that were started have their bodies.
  refine (RuleBook.card_le_bodyCount fun index hmem => ?_).trans hopened.bodyCount_le
  obtain ⟨key, hkey, rfl⟩ := List.mem_map.mp (List.mem_toFinset.mp hmem)
  obtain ⟨k, d, hentered, rfl⟩ := exists_of_mem_begun hkey
  exact ⟨k.rule, rfl, hopened.bodies k d hentered⟩

end Told

/-! ### Whole runs -/

/-- All visits of something that is done behind the visits `past` are accounted for, and
    its outcome is what they say. -/
structure Account (text : List Char) (start : Cursor) (w : World) (past visits : List Visit)
    (outcome : Option (Reply × World)) : Prop where
  accounted : AllAccounted start w past visits
  told : ∀ r u, outcome = some (r, u) → r.defect? = none → Told text w (past ++ visits) u
  reported : ∀ h c, .reentered h c ∈ visits →
    ∃ u, outcome = some (.defect (.leftRecursion h.rule c), u)

namespace Account

variable {text : List Char} {start c : Cursor} {w u : World} {past visits after : List Visit}
  {outcome : Option (Reply × World)} {h : Handle} {r : Reply} {v : Visit}

theorem nil (hold : ∀ r u, outcome = some (r, u) → Told text w past u) :
    Account text start w past [] outcome where
  accounted := trivial
  told r u houtcome _ := by
    rw [List.append_nil]
    exact hold r u houtcome
  reported _ _ hmem := nomatch hmem

/-- A use of a rule that is answered at once by a defect. -/
theorem defect {e : Defect} (hv : v.Accounted start w past)
    (hreported : ∀ h c, .reentered h c = v → e = .leftRecursion h.rule c) :
    Account text start w past [v] (some (.defect e, u)) where
  accounted := ⟨hv, trivial⟩
  told r u' houtcome hr := by
    cases houtcome
    cases hr
  reported k d hmem := by
    rw [hreported k d (List.mem_singleton.mp hmem)]
    exact ⟨u, rfl⟩

theorem append (hvisits : Account text start w past visits (some (r, u))) (hr : r.defect? = none)
    (hafter : Account text start w (past ++ visits) after outcome) :
    Account text start w past (visits ++ after) outcome where
  accounted := hvisits.accounted.append hafter.accounted
  told r' u' houtcome hr' := by
    rw [← List.append_assoc]
    exact hafter.told r' u' houtcome hr'
  reported k d hmem := by
    rcases List.mem_append.mp hmem with hbefore | hlast
    · -- A rule that was entered again has ended the run.
      obtain ⟨u', houtcome⟩ := hvisits.reported k d hbefore
      cases houtcome
      cases hr
    · exact hafter.reported k d hlast

theorem opening (hentered : (Visit.entered h c).Accounted start w past)
    (hwithin : Account text start w (past ++ [.entered h c]) visits outcome) :
    Account text start w past (.entered h c :: visits) outcome where
  accounted := ⟨hentered, hwithin.accounted⟩
  told r u houtcome hr := by
    have htold := hwithin.told r u houtcome hr
    rw [List.append_assoc, List.singleton_append] at htold
    exact htold
  reported k d hmem := by
    rcases List.mem_cons.mp hmem with hfirst | hrest
    · cases hfirst
    · exact hwithin.reported k d hrest

theorem closing (hvisits : Account text start w past visits (some (r, u))) (hc : c.Over text)
    (hplace : r.place.Over text) :
    Account text start w past (visits ++ [.left h c r]) (some (r, u.closed h c r)) where
  accounted := hvisits.accounted.append ⟨trivial, trivial⟩
  told r' u' houtcome hr := by
    cases houtcome
    rw [← List.append_assoc]
    exact (hvisits.told r u rfl hr).closed h hc hr hplace
  reported k d hmem := by
    rcases List.mem_append.mp hmem with hbefore | hlast
    · obtain ⟨u', houtcome⟩ := hvisits.reported k d hbefore
      cases houtcome
      exact ⟨_, rfl⟩
    · cases List.mem_singleton.mp hlast

end Account

variable {text : List Char} {n : Nat} {h : Handle} {start c : Cursor} {w u : World}
  {past : List Visit} {t : Dialogue}

theorem hold_account
    (hcall : ∀ {k : Handle} {d : Cursor} {u : World} {past : List Visit}, d.Over text →
      start.Reaches d → u.guard.Sure text → Told text w past u →
      Account text start w past (callVisits n k d u) (call n k d u))
    (hc : c.Over text) (hstart : start.Reaches c) (ht : t.Orderly c) (hu : u.guard.Sure text)
    (htold : Told text w past u) :
    Account text start w past (t.visits (call n) (callVisits n) u) (t.hold (call n) u) := by
  induction t generalizing u past with
  | finish r =>
    refine .nil fun r' u' houtcome => ?_
    cases houtcome
    exact htold
  | endless =>
    refine .nil fun r' u' houtcome => ?_
    cases houtcome
  | started p d next ih => exact ih ht hu htold
  | fellShort stop next ih =>
    exact ih (u := u.note (.fellShort stop)) ht hu (htold.congr rfl rfl)
  | tally label next ih => exact ih (u := u.tally label) ht hu (htold.congr rfl rfl)
  | ask k d next ih =>
    have hd := hc.reaches ht.reaches
    have hasked := hcall (k := k) hd (hstart.trans ht.reaches) hu htold
    rcases hask : call n k d u with _ | ⟨r, u₁⟩
    · rw [hask] at hasked
      rw [Dialogue.visits_ask_of_none hask, Dialogue.hold_ask_of_none hask]
      exact hasked
    · rw [hask] at hasked
      rcases hr : r.defect? with _ | e
      · obtain ⟨hsure, hreach⟩ := call_sure hd hu hask
        rw [Dialogue.visits_ask_of_reply hask hr, Dialogue.hold_ask_of_reply hask hr]
        exact hasked.append hr (ih r (ht.after hr hreach) hsure (hasked.told r u₁ rfl hr))
      · obtain rfl := Reply.eq_defect hr
        rw [Dialogue.visits_ask_of_defect hask, Dialogue.hold_ask_of_defect hask]
        exact hasked

theorem call_account (n : Nat) (hc : c.Over text) (hstart : start.Reaches c)
    (hu : u.guard.Sure text) (htold : Told text w past u) :
    Account text start w past (callVisits n h c u) (call n h c u) := by
  induction n generalizing h c u past with
  | zero =>
    refine .nil fun r u' houtcome => ?_
    cases houtcome
  | succ n ih =>
    rcases hbody : (u.resolve h).1 with _ | body
    · rw [call_of_unresolved hbody]
      simp only [callVisits, hbody]
      refine .defect (htold.accounted_undefined start c hbody) fun k d heq => ?_
      cases heq
    · rw [call_of_resolved hbody]
      simp only [callVisits, hbody]
      rcases hlookup : u.guard.lookup? h.rule c.offset with _ | _ | memo
      · have hopened : (u.opened h c).guard.Sure text := hu.enter h.rule c.offset
        have hentered := htold.accounted_entered hstart hbody hlookup
        have hwithin := hold_account ih hc hstart (body.orderly_dialogue c) hopened
          (htold.opened c hbody)
        rw [← Parser.matcher_eq_hold] at hwithin
        simp only
        rcases hrun : body.matcher (call n) c (u.opened h c) with _ | ⟨r, u₁⟩
        · rw [hrun] at hwithin
          exact hwithin.opening hentered
        · rw [hrun] at hwithin
          have hreach := (matcher_keeps .trivial hc ⟨hopened, True.intro⟩ hrun).2
          exact (hwithin.opening hentered).closing hc (hc.reaches hreach)
      · refine .defect True.intro fun k d heq => ?_
        cases heq
        rfl
      · have hserved := htold.accounted_served start hc hlookup
        refine ⟨⟨hserved, trivial⟩, ?_, ?_⟩
        · rintro r u₁ ⟨⟩ _
          exact htold.served h c _ _
        · intro k d hmem
          cases List.mem_singleton.mp hmem

/-! ### The bound -/

def offsetsFrom (c : Cursor) : Finset Nat := (keysFrom 1 c).image Prod.snd

theorem card_offsetsFrom_le (c : Cursor) : (offsetsFrom c).card ≤ c.rest.length + 1 := by
  refine Finset.card_image_le.trans ?_
  rw [← Nat.one_mul (c.rest.length + 1)]
  exact card_keysFrom_le 1 c

theorem length_begun_le {visits : List Visit} (h : AllAccounted start w [] visits) :
    (begun visits).length ≤ w.book.bodyCount * (start.rest.length + 1) := by
  have hsub : (begun visits).toFinset ⊆ rulesBegun visits ×ˢ offsetsFrom start := by
    intro key hkey
    rw [List.mem_toFinset] at hkey
    obtain ⟨k, d, hentered, rfl⟩ := exists_of_mem_begun hkey
    have hreach := (h.accounted_of_mem hentered).2
    refine Finset.mem_product.mpr ⟨?_, ?_⟩
    · exact List.mem_toFinset.mpr (List.mem_map_of_mem hkey)
    · exact Finset.mem_image.mpr ⟨(0, d.offset), mem_keysFrom Nat.one_pos hreach, rfl⟩
  calc (begun visits).length
      = (begun visits).toFinset.card := (List.toFinset_card_of_nodup h.nodup_begun).symm
    _ ≤ (rulesBegun visits ×ˢ offsetsFrom start).card := Finset.card_le_card hsub
    _ = (rulesBegun visits).card * (offsetsFrom start).card := Finset.card_product _ _
    _ ≤ w.book.bodyCount * (start.rest.length + 1) :=
      Nat.mul_le_mul h.card_rulesBegun_le (card_offsetsFrom_le start)

end World

/-- The visit starts no body: it replays a known outcome, or it is the left recursion that
    the run reports.  A rule that neither has a body nor gets one when it is used is
    visited in vain, and the end of a body is not a visit of its own. -/
def Visit.Answered (w : World) (outcome : Option (Reply × World)) (before : List Visit) :
    Visit → Prop
  | .entered _ _ => False
  | .served h c r => Replays w before h c r
  | .reentered h c => ∃ w', outcome = some (.defect (.leftRecursion h.rule c), w')
  | .undefined h c => w.book.isDefined h = false ∧ (h.rule.index, c.offset) ∉ begun before
  | .left _ _ _ => True

namespace World

/-- **The packrat bound.**  A parser is run at a cursor over a text, under a guard whose
    entries were recorded over the text by runs that are over or still under way.  The
    body of each rule is started at most once at each offset, and never where the guard
    had an entry for the rule.  Where the body was started before or the guard had an
    entry, every further visit of a rule that has a body replays the recorded outcome or
    is reported as left recursion.  So the run starts at most as many bodies as there are
    rules that have one, times one more than the characters from the cursor on.

    The run need not come back. -/
theorem packrat_bound {text : List Char} {c : Cursor} {w : World} (hc : c.Over text)
    (hw : w.guard.Recorded text) (p : Parser) :
    (begun (runVisits p c w)).Nodup ∧
    (∀ key ∈ begun (runVisits p c w), w.guard.entries.get? key = none) ∧
    (∀ before v after, runVisits p c w = before ++ v :: after →
      v.key ∈ begun before ∨ w.guard.entries.get? v.key ≠ none →
      v.Answered w (run p c w) before) ∧
    (begun (runVisits p c w)).length ≤ w.book.bodyCount * (c.rest.length + 1) := by
  have haccount : Account text c w [] (runVisits p c w) (run p c w) := by
    have hhold := hold_account (call_account (w.depthLimit c)) hc (.refl c) (p.orderly_dialogue c)
      hw.sure (.here text w)
    rw [← Parser.matcher_eq_hold] at hhold
    exact hhold
  have haccounted := haccount.accounted
  refine ⟨haccounted.nodup_begun, ?_, ?_, length_begun_le haccounted⟩
  · intro key hkey
    obtain ⟨k, d, hentered, rfl⟩ := exists_of_mem_begun hkey
    exact (haccounted.accounted_of_mem hentered).1
  · intro before v after hsplit hknown
    rw [hsplit] at haccounted
    have hv := haccounted.middle
    rw [List.nil_append] at hv
    cases v with
    | entered k d =>
      rcases hknown with hbegun | hentry
      · exact hv.2.1 hbegun
      · exact hentry hv.1
    | served k d r => exact hv
    | reentered k d =>
      refine haccount.reported k d ?_
      rw [hsplit]
      exact List.mem_append_right _ List.mem_cons_self
    | undefined k d => exact hv
    | left k d r => trivial

/-- An earlier run has left the outcome of `item` behind the first character.  The first
    branch of the choice fails behind `item`, and the second one uses it twice. -/
theorem packrat_bound_backtracking :
    let item : Handle := ⟨⟨0, "item"⟩, true⟩
    let start : Cursor := .start ['a', 'b']
    let p : Parser :=
      .choice false (.and (.rule item) (.string "x")) (.and (.rule item) (.rule item))
    ∃ r w, run (.rule item) (start.skip 1) ⟨[.defined (.take 1)], .empty, .empty, [], []⟩ =
        some (r, w) ∧
      runVisits p start w =
        [.entered item start, .left item start (.success (.str "a") (start.skip 1)),
          .served item start (.success (.str "a") (start.skip 1)),
          .served item (start.skip 1) (.success (.str "b") (start.skip 2))] ∧
      (begun (runVisits p start w)).length ≤ 1 * (2 + 1) := by
  intro item start p
  let filled : Guard := ⟨none, [((0, 1), .done (.parsed (.str "b") ⟨2, 1, 3⟩))]⟩
  let w : World := ⟨[.defined (.take 1)], .empty, filled, [], []⟩
  have hfirst : run (.rule item) (start.skip 1) ⟨[.defined (.take 1)], .empty, .empty, [], []⟩ =
      some (_, w) := rfl
  have hguard : w.guard.Recorded ['a', 'b'] :=
    .ran (.fresh (rfl : Guard.empty.entries = [])) (.skip 1 _) hfirst
  obtain ⟨_, _, _, hbound⟩ := packrat_bound (.start ['a', 'b']) hguard p
  refine ⟨_, w, hfirst, ?_, hbound⟩
  -- The visits are read off the log.
  have hlog := logged_run p start w
  have hrun : run p start w = some _ := rfl
  have hlogged : p.matcher (Logged.call (w.depthLimit start)) start ⟨w, []⟩ = some _ := rfl
  rw [hrun, hlogged] at hlog
  simp only [Logged.ofRun, Option.map_some, Option.some.injEq, Prod.mk.injEq, Logged.mk.injEq,
    List.append_nil] at hlog
  rw [← List.reverse_reverse (runVisits p start w), ← hlog.2.2]
  rfl

end World

end Descent
