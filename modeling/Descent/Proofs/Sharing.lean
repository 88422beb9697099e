/-
  Descent/Proofs/Sharing.lean
  ===========================
  **One guard for many runs** — where that can be told from the replies, and where not.

  Making a cursor binds the guard to the text of the cursor, and a guard that is bound to
  another text than before forgets everything.  As long as each run starts from a cursor
  that was just made, the outcomes that it finds in the guard are about its own text.
  They come from runs at other places, and some of these runs ended in a defect; but the
  guard was left in order (`Guard.Kept`), and with all that its outcomes were made of
  (`World.Grounded`).  So it is ready for the next text (`World.Ready`), and every run
  replies as it would under a guard of its own.

  A cursor that was made earlier does not bind the guard again.  A run from it leaves
  outcomes in a guard that may be bound to another text by now, and a run over that text
  takes them for its own.  What holds for all orders of making and using cursors is that
  a run replies as under a guard of its own if all runs since the guard last was empty
  were over its text (`World.ReadyFor`).
-/
import Descent.Proofs.GuardIndependence

namespace Descent

namespace World

variable {text : List Char} {c : Cursor} {w w' u : World} {r : Reply} {p : Parser}

/-! ### Binding the guard -/

def withGuard (g : Guard) (w : World) : World := { w with guard := g }

theorem guard_bindGuard (text : List Char) (w : World) :
    (w.bindGuard text).guard = w.guard.bind text := by
  unfold bindGuard
  split <;> rfl

theorem sameRules_bindGuard (text : List Char) (w : World) : SameRules w (w.bindGuard text) := by
  unfold bindGuard
  split <;> exact ⟨rfl, rfl⟩

theorem source_bind (text : List Char) (g : Guard) : (g.bind text).source = some text := by
  unfold Guard.bind
  split
  · assumption
  · rfl

theorem not_expands_of_no_entries {g : Guard} (hentries : g.entries = []) (key : Nat × Nat) :
    ¬ g.Expands key := by
  intro hexpands
  rw [Guard.Expands, hentries] at hexpands
  cases hexpands

/-- No rule is being expanded, and the outcomes that the guard holds are about the text,
    whatever text it is bound to. -/
structure ReadyFor (text : List Char) (w : World) : Prop where
  idle : ∀ key, ¬ w.guard.Expands key
  grounded : w.Grounded text

namespace ReadyFor

theorem of_no_entries (hentries : w.guard.entries = []) : w.ReadyFor text :=
  ⟨not_expands_of_no_entries hentries, .of_no_entries hentries⟩

/-- Making a cursor leaves the outcomes as they are, or drops them all. -/
theorem bindGuard (hw : w.ReadyFor text) (other : List Char) :
    (w.bindGuard other).ReadyFor text := by
  have hguard := guard_bindGuard other w
  by_cases hsource : w.guard.source = some other
  · rw [Guard.bind, if_pos hsource] at hguard
    refine ⟨fun key => ?_, hw.grounded.later (fun rule offset memo => by rw [hguard]) ?_⟩
    · rw [hguard]
      exact hw.idle key
    · rw [(sameRules_bindGuard other w).book]
      exact .refl _
  · rw [Guard.bind, if_neg hsource] at hguard
    exact of_no_entries (by rw [hguard])

/-- A run leaves a guard that is ready again, whatever it replies. -/
theorem run (hw : w.ReadyFor text) (hc : c.Over text)
    (hrun : World.run p c w = some (r, w')) : w'.ReadyFor text := by
  have hkept := matcher_kept hc hw.grounded.sure hrun
  rw [World.run, Parser.matcher_eq_hold] at hrun
  refine ⟨fun key hexpands => hw.idle key ((hkept.expands_iff key).mp hexpands), ?_⟩
  exact (hold_grounded (call_grounded _) hc (p.orderly_dialogue c) hw.grounded hrun).1

end ReadyFor

/-- No rule is being expanded, and if the guard is bound to a text, its outcomes are about
    that text. -/
structure Ready (w : World) : Prop where
  idle : ∀ key, ¬ w.guard.Expands key
  grounded : ∀ text, w.guard.source = some text → w.Grounded text

namespace Ready

theorem of_no_entries (hentries : w.guard.entries = []) : w.Ready where
  idle := not_expands_of_no_entries hentries
  grounded _ _ := .of_no_entries hentries

/-- A guard that is ready can be bound to any text. -/
theorem bindGuard (hw : w.Ready) (text : List Char) : (w.bindGuard text).ReadyFor text := by
  by_cases hsource : w.guard.source = some text
  · have hready : w.ReadyFor text := ⟨hw.idle, hw.grounded text hsource⟩
    exact hready.bindGuard text
  · have hguard := guard_bindGuard text w
    rw [Guard.bind, if_neg hsource] at hguard
    exact .of_no_entries (by rw [hguard])

theorem run (hw : w.Ready) (hc : c.Over text)
    (hrun : World.run p c (w.bindGuard text) = some (r, w')) : w'.Ready := by
  have hbound := hw.bindGuard text
  have hready := hbound.run hc hrun
  have hsource : w'.guard.source = some text := by
    rw [(matcher_kept hc hbound.grounded.sure hrun).source_eq, guard_bindGuard, source_bind]
  refine ⟨hready.idle, fun text' hsource' => ?_⟩
  rw [hsource] at hsource'
  cases hsource'
  exact hready.grounded

/-- A guard that was put aside is still ready when rules have got their bodies. -/
theorem withGuard (hw : w.Ready) (hbook : w.book.Grows u.book) : (u.withGuard w.guard).Ready where
  idle := hw.idle
  grounded text hsource := (hw.grounded text hsource).later (fun _ _ _ => Iff.rfl) hbook

end Ready

/-- A world is in step with one that has the same rules and a guard without entries, if
    no rule is being expanded in it. -/
theorem InStep.of_no_entries (hsame : SameRules w u) (hidle : ∀ key, ¬ w.guard.Expands key)
    (hentries : u.guard.entries = []) : InStep w u := by
  refine ⟨⟨hsame, fun rule offset memo hdone => ?_⟩, fun key => ?_⟩
  · rw [Guard.lookup?, hentries] at hdone
    cases hdone
  · exact iff_of_false (not_expands_of_no_entries hentries key) (hidle key)

/-! ### Runs from cursors that were just made -/

/-- Both come to the same reply and to the same rules, or neither comes back. -/
def Alike (x y : Option (Reply × World)) : Prop :=
  Option.Rel (fun a b => a.1 = b.1 ∧ SameRules a.2 b.2) x y

/-- Two runs that agree with a third one are alike. -/
theorem alike_of_agree {x y z : Option (Reply × World)} (hx : Agree x z) (hy : Agree y z) :
    Alike x y := by
  cases hx with
  | none =>
    cases hy with
    | none => exact .none
  | some hxz =>
    cases hy with
    | some hyz =>
      obtain ⟨hreply, hworlds⟩ := hxz
      obtain ⟨hreply', hworlds'⟩ := hyz
      refine .some ⟨hreply.trans hreply'.symm, ?_⟩
      have hbook := hworlds'.same.book.symm.trans hworlds.same.book
      have hregistry := hworlds'.same.registry.symm.trans hworlds.same.registry
      exact ⟨hbook, hregistry⟩

/-- Another guard makes no difference to the rules. -/
theorem Alike.withGuard {x y : Option (Reply × World)} (g : Guard) (hxy : Alike x y) :
    Alike (x.map fun a => (a.1, a.2.withGuard g)) y := by
  cases hxy with
  | none => exact .none
  | some hboth => exact .some ⟨hboth.1, hboth.2.book, hboth.2.registry⟩

/-- **A run does not depend on what the guard holds**, as long as it is about the text. -/
theorem run_alike (hw : w.Ready) (hu : u.Ready) (hsame : SameRules w u) (hc : c.Over text) :
    Alike (run p c (w.bindGuard text)) (run p c (u.bindGuard text)) := by
  -- Both are compared with the run under a guard that knows nothing.
  let fresh : World := (w.bindGuard text).withGuard .empty
  have hempty : fresh.guard.entries = [] := rfl
  have hsure : fresh.guard.Sure text := .of_no_entries hempty
  have hbound := sameRules_bindGuard text w
  have hbound' := sameRules_bindGuard text u
  have hstep : InStep (w.bindGuard text) fresh :=
    .of_no_entries ⟨rfl, rfl⟩ (hw.bindGuard text).idle hempty
  have hstep' : InStep (u.bindGuard text) fresh := by
    refine .of_no_entries ⟨?_, ?_⟩ (hu.bindGuard text).idle hempty
    · exact hbound.book.trans (hsame.book.symm.trans hbound'.book.symm)
    · exact hbound.registry.trans (hsame.registry.symm.trans hbound'.registry.symm)
  exact alike_of_agree (run_agree hc (hw.bindGuard text).grounded hsure hstep)
    (run_agree hc (hu.bindGuard text).grounded hsure hstep')

end World

/-- A run to be made: of a parser, from a cursor that is made for it. -/
structure Errand where
  parser : Parser
  text : List Char
  skip : Nat
  /-- Whether the run has a guard of its own, which knows nothing. -/
  alone : Bool

namespace Errand

def start (e : Errand) : Cursor := (Cursor.start e.text).skip e.skip

theorem over_start (e : Errand) : e.start.Over e.text := .skip e.skip _

def sharing (e : Errand) : Errand := { e with alone := false }

end Errand

namespace World

variable {w w' u : World} {r : Reply} {e : Errand}

/-- Make a cursor and run the parser there.  A guard of its own is thrown away after the
    run, and the shared one is as it was. -/
def carryOut (e : Errand) (w : World) : Option (Reply × World) :=
  if e.alone then
    (run e.parser e.start ((w.withGuard .empty).bindGuard e.text)).map fun x =>
      (x.1, x.2.withGuard w.guard)
  else run e.parser e.start (w.bindGuard e.text)

/-- The replies of runs that are made one after the other.  A run that does not come back
    is the last one. -/
def replies : List Errand → World → List (Option Reply)
  | [], _ => []
  | e :: rest, w =>
    match w.carryOut e with
    | none => [none]
    | some (r, w) => some r :: w.replies rest

theorem grows_run {text : List Char} {p : Parser} {c : Cursor} (hc : c.Over text)
    (hw : w.guard.Sure text) (hrun : run p c w = some (r, w')) : w.book.Grows w'.book := by
  rw [run, Parser.matcher_eq_hold] at hrun
  exact grows_hold hc (p.orderly_dialogue c) hw hrun

/-- Under a guard of its own, the shared guard is left as it was. -/
theorem Ready.carryOut (hw : w.Ready) (hrun : w.carryOut e = some (r, w')) : w'.Ready := by
  rw [World.carryOut] at hrun
  by_cases halone : e.alone = true
  · rw [if_pos halone] at hrun
    obtain ⟨⟨r', w₁⟩, hrun', heq⟩ := Option.map_eq_some_iff.mp hrun
    cases heq
    have hfresh : (w.withGuard .empty).Ready := .of_no_entries rfl
    have hgrows := grows_run e.over_start (hfresh.bindGuard e.text).grounded.sure hrun'
    rw [(sameRules_bindGuard e.text _).book] at hgrows
    exact hw.withGuard hgrows
  · rw [if_neg halone] at hrun
    exact hw.run e.over_start hrun

theorem carryOut_alike (hw : w.Ready) (hu : u.Ready) (hsame : SameRules w u) (e : Errand) :
    Alike (w.carryOut e) (u.carryOut e.sharing) := by
  have hshared : u.carryOut e.sharing = run e.parser e.start (u.bindGuard e.text) := rfl
  rw [hshared, carryOut]
  by_cases halone : e.alone = true
  · have hfresh : (w.withGuard .empty).Ready := .of_no_entries rfl
    have halike := run_alike (p := e.parser) hfresh hu ⟨hsame.book, hsame.registry⟩ e.over_start
    rw [if_pos halone]
    exact halike.withGuard w.guard
  · rw [if_neg halone]
    exact run_alike hw hu hsame e.over_start

theorem replies_alike (errands : List Errand) (hw : w.Ready) (hu : u.Ready)
    (hsame : SameRules w u) : w.replies errands = u.replies (errands.map Errand.sharing) := by
  induction errands generalizing w u with
  | nil => rfl
  | cons e rest ih =>
    have halike := carryOut_alike hw hu hsame e
    rw [List.map_cons, replies, replies]
    rcases hrun : w.carryOut e with _ | ⟨r, w'⟩
    · rcases hrun' : u.carryOut e.sharing with _ | _
      · rfl
      · rw [hrun, hrun'] at halike
        cases halike
    · rcases hrun' : u.carryOut e.sharing with _ | ⟨r', u'⟩
      · rw [hrun, hrun'] at halike
        cases halike
      · rw [hrun, hrun'] at halike
        cases halike with
        | some hboth =>
          obtain ⟨rfl, hsame'⟩ := hboth
          simp only [ih (hw.carryOut hrun) (hu.carryOut hrun') hsame']

/-- **Sharing a guard cannot be told from the replies.**  Runs are made one after the
    other, each from a cursor that is made for it over any text and moved forward any
    number of characters.  Some of them have a guard of their own that knows nothing, and
    the others share one, which has no entries at first.  The replies are those that come
    if all runs share it; so they do not depend on which runs do.  This includes runs that
    do not come back, behind which none is made. -/
theorem replies_sharing (errands : List Errand) (hw : w.guard.entries = []) :
    w.replies errands = w.replies (errands.map Errand.sharing) :=
  replies_alike errands (.of_no_entries hw) (.of_no_entries hw) (.refl w)

/-- The rule `pair` takes two characters, and `sum` begins with itself or with `pair`.
    Each run has a guard of its own: one succeeds, one ends in left recursion behind the
    same characters, one fails over another text, and one is over the first text again. -/
theorem replies_sharing_mixed :
    let pair : Parser := .rule ⟨⟨0, "pair"⟩, true⟩
    let sum : Parser := .rule ⟨⟨1, "sum"⟩, true⟩
    let w : World := ⟨[.defined (.take 2), .defined (.choice false (.and sum pair) pair)],
      .empty, .empty, [], []⟩
    let long : List Char := ['a', 'b', 'c']
    w.replies [⟨pair, long, 0, true⟩, ⟨.and pair sum, long, 0, true⟩, ⟨pair, ['b'], 0, true⟩,
        ⟨pair, long, 1, true⟩] =
      [some (.success (.str "ab") (.skip 2 (.start long))),
        some (.defect (.leftRecursion ⟨1, "sum"⟩ (.skip 2 (.start long)))),
        some (.failure (.unexpected (.skip 1 (.start ['b'])) "more text")),
        some (.success (.str "bc") (.skip 3 (.start long)))] := by
  intro pair sum w long
  let errands : List Errand := [⟨pair, long, 0, true⟩, ⟨.and pair sum, long, 0, true⟩,
    ⟨pair, ['b'], 0, true⟩, ⟨pair, long, 1, true⟩]
  have hsharing : w.replies errands = w.replies (errands.map Errand.sharing) :=
    replies_sharing errands rfl
  have hshared : w.replies (errands.map Errand.sharing) = _ := rfl
  exact hsharing.trans hshared

end World

/-! ### Runs from cursors that were made earlier -/

inductive Act where
  | create (text : List Char)
  /-- A parser is run at a cursor that was made before, perhaps long before. -/
  | run (p : Parser) (c : Cursor)

namespace World

variable {text : List Char} {c : Cursor} {w w' u : World} {r : Reply} {p : Parser}

/-- The world behind some acts; none if a run does not come back. -/
def afterActs : List Act → World → Option World
  | [], w => some w
  | .create text :: rest, w => afterActs rest (w.bindGuard text)
  | .run p c :: rest, w =>
    match run p c w with
    | none => none
    | some (_, w) => afterActs rest w

theorem ReadyFor.afterActs {acts : List Act} (hw : w.ReadyFor text)
    (hacts : ∀ q d, Act.run q d ∈ acts → d.Over text) (hafter : w.afterActs acts = some w') :
    w'.ReadyFor text := by
  induction acts generalizing w with
  | nil =>
    cases hafter
    exact hw
  | cons act rest ih =>
    have hrest : ∀ q d, Act.run q d ∈ rest → d.Over text :=
      fun q d hmem => hacts q d (List.mem_cons_of_mem _ hmem)
    cases act with
    | create other => exact ih (hw.bindGuard other) hrest hafter
    | run q d =>
      rw [World.afterActs] at hafter
      rcases hrun : World.run q d w with _ | ⟨r, w₁⟩
      · rw [hrun] at hafter
        cases hafter
      · rw [hrun] at hafter
        exact ih (hw.run (hacts q d List.mem_cons_self) hrun) hrest hafter

theorem map_fst_of_agree {x y : Option (Reply × World)} (hxy : Agree x y) :
    x.map Prod.fst = y.map Prod.fst := by
  cases hxy with
  | none => rfl
  | some hboth => exact congrArg some hboth.1

/-- **Interleaved runs over one text reply as they should.**  Since the guard had no
    entries, cursors were made over any texts, in any order, and parsers were run at
    cursors over one text only.  Then a run at a cursor over that text replies as it would
    under a guard of its own, whatever text the guard is bound to, and the place of the
    reply is over the text. -/
theorem reply_of_interleaved {acts : List Act} (hw : w.guard.entries = [])
    (hacts : ∀ q d, Act.run q d ∈ acts → d.Over text) (hafter : w.afterActs acts = some w')
    (hc : c.Over text) (p : Parser) :
    (run p c w').map Prod.fst = (run p c (w'.withGuard (.bind .empty text))).map Prod.fst ∧
    ∀ r w'', run p c w' = some (r, w'') → r.place.Over text := by
  have hready : w'.ReadyFor text := .afterActs (.of_no_entries hw) hacts hafter
  constructor
  · have hstep : InStep w' (w'.withGuard (.bind .empty text)) :=
      .of_no_entries ⟨rfl, rfl⟩ hready.idle rfl
    exact map_fst_of_agree (run_agree hc hready.grounded (.of_no_entries rfl) hstep)
  · intro r w'' hrun
    exact hc.reaches (matcher_keeps .trivial hc ⟨hready.grounded.sure, True.intro⟩ hrun).2

/-- The guard is bound to the text `b`, and the rule is run twice at a cursor over the
    text `aa` that was made before.  The second run takes the outcome of the first one
    from the guard, and it is the outcome that a guard of its own would lead to. -/
theorem reply_of_interleaved_served :
    let rule : Parser := .rule ⟨⟨0, "aa"⟩, true⟩
    let start : Cursor := .start ['a', 'a']
    let w : World := ⟨[.defined (.string "aa")], .empty, .empty, [], []⟩
    ∃ w' w'', w.afterActs [.create ['a', 'a'], .create ['b'], .run rule start] = some w' ∧
      run rule start w' = some (.success (.str "aa") (start.skip 2), w'') ∧
      w''.journal = [.served ⟨0, "aa"⟩ .start] ∧
      (run rule start (w'.withGuard (.bind .empty ['a', 'a']))).map Prod.fst =
        some (.success (.str "aa") (start.skip 2)) ∧
      (start.skip 2).Over ['a', 'a'] := by
  intro rule start w
  have hafter : w.afterActs [.create ['a', 'a'], .create ['b'], .run rule start] = some _ := rfl
  have hacts : ∀ q d, Act.run q d ∈ [Act.create ['a', 'a'], .create ['b'], .run rule start] →
      d.Over ['a', 'a'] := by
    intro q d hmem
    simp only [List.mem_cons, reduceCtorEq, Act.run.injEq, List.not_mem_nil, false_or,
      or_false] at hmem
    rw [hmem.2]
    exact .start _
  obtain ⟨hreply, hplace⟩ := reply_of_interleaved rfl hacts hafter (.start ['a', 'a']) rule
  exact ⟨_, _, hafter, rfl, rfl, hreply.symm, hplace _ _ rfl⟩

/-- **Outcomes cross texts.**  Two cursors are made, the second one over another text.
    The rule is run at the first cursor and then at the second one: there it is served
    the outcome of the first run, and the place of the reply is behind the end of the
    text.  Under a guard of its own, the second run fails. -/
theorem served_across_texts :
    let rule : Parser := .rule ⟨⟨0, "aa"⟩, true⟩
    let w : World := ⟨[.defined (.string "aa")], .empty, .empty, [], []⟩
    ∃ w', w.afterActs [.create ['a', 'a'], .create ['b'], .run rule (.start ['a', 'a'])] =
        some w' ∧
      (∃ w'', run rule (.start ['b']) w' =
        some (.success (.str "aa") ⟨['b'], ⟨2, 1, 3⟩, []⟩, w'')) ∧
      ¬ Cursor.Over ['b'] ⟨['b'], ⟨2, 1, 3⟩, []⟩ ∧
      (run rule (.start ['b']) (w'.withGuard (.bind .empty ['b']))).map Prod.fst =
        some (.failure (.unexpected (.start ['b']) "aa")) := by
  intro rule w
  refine ⟨_, rfl, ⟨_, rfl⟩, ?_, rfl⟩
  intro hover
  obtain ⟨before, hrest, _, _, hoffset⟩ := hover.exists_before
  rw [List.append_nil] at hrest
  rw [← hrest] at hoffset
  cases hoffset

end World

end Descent
