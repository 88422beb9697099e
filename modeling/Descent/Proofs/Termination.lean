/-
  Descent/Proofs/Termination.lean
  ===============================
  **Every run comes back** — whatever the grammar, left recursive or not.

  Three things could keep a run from ending.  Expansions could nest without end; but
  there is room for one more wherever one is asked for (`World.Room`), and a rule that
  is entered again at its own place is not expanded.  A loop that looks at the place
  could go on without consuming; it does not.  A counted repetition could; so those
  without an upper bound are asked to be of parsers that never succeed without
  consuming (`World.Consumes`).

  What a parser does depends on the rules that are built and on what the guard holds.
  So that is asked of every world that can come about in the course of runs over the
  text (`World.Arises`), and of no other.
-/
import Descent.Proofs.Depth
import Descent.Proofs.Forward
import Descent.Proofs.Total

namespace Descent

namespace World

/-! ### Worlds that come about -/

/-- The world `u` can come about from `w` in the course of runs over the text. -/
inductive Arises (text : List Char) (w : World) : World → Prop where
  | here : Arises text w w
  | noted {u : World} (record : Record) (hu : Arises text w u) : Arises text w (u.note record)
  | tallied {u : World} (label : String) (hu : Arises text w u) : Arises text w (u.tally label)
  | opened {u : World} {h : Handle} {c : Cursor} {body : Parser} (hu : Arises text w u)
    (hc : c.Over text) (hbody : (u.resolve h).1 = some body)
    (hlookup : u.guard.lookup? h.rule c.offset = none) : Arises text w (u.opened h c)
  | called {u u' : World} {n : Nat} {h : Handle} {c : Cursor} {r : Reply}
    (hu : Arises text w u) (hc : c.Over text) (hcall : call n h c u = some (r, u')) :
    Arises text w u'

/-- The parser never succeeds without consuming, in any world that can come about. -/
def Consumes (text : List Char) (w : World) (q : Parser) : Prop :=
  ∀ u n c v d u', Arises text w u → c.Over text →
    q.matcher (call n) c u = some (.success v d, u') → ¬ d.sameSpot c = true

/-- Every rule that has a body in a world that can come about has a steady one: each
    repetition in it has an upper bound or is of a parser that consumes. -/
def Steady (text : List Char) (w : World) : Prop :=
  ∀ u rule body, Arises text w u → (u.book.slot rule).body = some body →
    body.Steady (w.Consumes text)

variable {text : List Char} {start c : Cursor} {capacity n : Nat} {h : Handle} {w u u' : World}
  {r : Reply} {p : Parser}

/-! ### When rules are steady and parsers consume -/

/-- What no step takes away is there in every world that comes about. -/
theorem Arises.keeps {I : World → Prop} (hI : Lasting I) (hw : w.guard.Sure text ∧ I w)
    (hu : Arises text w u) : u.guard.Sure text ∧ I u := by
  induction hu with
  | here => exact hw
  | noted record _ ih => exact ⟨ih.1, hI.note record _ ih.2⟩
  | tallied label _ ih => exact ⟨ih.1, hI.tally label _ ih.2⟩
  | opened _ _ _ hlookup ih => exact ⟨ih.1.enter _ _, hI.opened _ _ _ ih.2 hlookup⟩
  | called _ hc hcall ih => exact (call_keeps hI _ hc ih hcall).1

/-- A book in which no rule is deferred stays as it is. -/
theorem lasting_book {book : RuleBook}
    (hbook : ∀ rule, (book.slot rule).factory = none) :
    Lasting fun w => w.book = book := by
  have hresolve : ∀ k (w : World), w.book = book → (w.resolve k).2.book = book := by
    intro k w hw
    rcases w.resolve_cases k with ⟨_, hnone⟩ | ⟨_, _, hsome⟩ | ⟨closure, _, hfactory, _⟩
    · rw [hnone]
      exact hw
    · rw [hsome]
      exact hw
    · rw [hw, hbook] at hfactory
      cases hfactory
  constructor
  · exact fun _ _ hw => hw
  · exact fun _ _ hw => hw
  · exact hresolve
  · exact fun h _ w hw _ => hresolve h w hw
  · exact fun _ _ _ _ _ _ _ hw => hw

/-- Where no rule is deferred, it is enough to look at the bodies that are there. -/
theorem steady_of_no_deferred (hguard : w.guard.Recorded text)
    (hdeferred : ∀ rule, (w.book.slot rule).factory = none)
    (hbodies : ∀ rule body, (w.book.slot rule).body = some body →
      body.Steady (w.Consumes text)) : w.Steady text := by
  intro u rule body hu hslot
  rw [(hu.keeps (lasting_book hdeferred) ⟨hguard.sure, rfl⟩).2] at hslot
  exact hbodies rule body hslot

/-- A reader consumes if it takes nothing but characters that are there, and at least
    one. -/
theorem consumes_scan {read : Scanner}
    (hread : ∀ rest n v, read rest = .accept n v → 0 < n ∧ 0 < rest.length) :
    w.Consumes text (.scan read) := by
  intro u n c v d u' _ _ hrun hspot
  have hreply : Matcher.conclude c (read c.rest) = .success v d :=
    congrArg Prod.fst (Option.some.inj hrun)
  rcases hverdict : read c.rest with ⟨k, v'⟩ | ⟨k, message, labels⟩
  · rw [hverdict] at hreply
    obtain ⟨rfl, rfl⟩ := Reply.success.inj hreply
    obtain ⟨hk, hrest⟩ := hread _ _ _ hverdict
    have hless := Cursor.Reaches.skip_rest_lt hk hrest
    rw [(Cursor.Reaches.skip k c).eq_of_sameSpot hspot] at hless
    exact Nat.lt_irrefl _ hless
  · rw [hverdict] at hreply
    cases hreply

theorem consumes_take (hn : 0 < n) : w.Consumes text (.take n) := by
  refine consumes_scan fun rest k v hread => ?_
  unfold Scanner.take at hread
  split at hread
  · rename_i hlength
    cases hread
    exact ⟨hn, Nat.lt_of_lt_of_le hn hlength⟩
  · cases hread

/-! ### Runs under way -/

/-- The world `u` has come about from `w` in a run from `start`, which has room for `n`
    more expansions. -/
structure Underway (text : List Char) (w : World) (start : Cursor) (capacity n : Nat)
    (u : World) : Prop where
  arises : Arises text w u
  sure : u.guard.Sure text
  room : u.Room start capacity n

namespace Underway

theorem note (record : Record) (hu : Underway text w start capacity n u) :
    Underway text w start capacity n (u.note record) :=
  ⟨hu.arises.noted record, hu.sure, hu.room.capacity_le, hu.room.exists_keys⟩

theorem tally (label : String) (hu : Underway text w start capacity n u) :
    Underway text w start capacity n (u.tally label) :=
  ⟨hu.arises.tallied label, hu.sure, hu.room.capacity_le, hu.room.exists_keys⟩

theorem opened {body : Parser} (hu : Underway text w start capacity (n + 1) u)
    (hc : c.Over text) (hstart : start.Reaches c) (hbody : (u.resolve h).1 = some body)
    (hlookup : u.guard.lookup? h.rule c.offset = none) :
    Underway text w start capacity n (u.opened h c) :=
  ⟨hu.arises.opened hc hbody hlookup, hu.sure.enter h.rule c.offset,
    hu.room.opened hstart hbody hlookup⟩

theorem call {m : Nat} (hu : Underway text w start capacity n u) (hc : c.Over text)
    (hcall : World.call m h c u = some (r, u')) : Underway text w start capacity n u' :=
  ⟨hu.arises.called hc hcall, (call_sure hc hu.sure hcall).1,
    hu.room.call hc hu.sure hcall⟩

end Underway

/-- A steady parser comes back from a world under way, if the rules do. -/
theorem returns_of_steady (hstart : start.Over text)
    (hcall : ∀ h, Matcher.Returns (Underway text w start capacity n) start (call n h))
    (hp : p.Steady (w.Consumes text)) :
    Matcher.Returns (Underway text w start capacity n) start (p.matcher (call n)) := by
  refine Parser.returns_matcher (fun record _ hu => hu.note record)
    (fun label _ hu => hu.tally label) hcall ?_ hp
  intro q hq c u v d u' hc hu hrun
  exact hq u n c v d u' hu.arises (hstart.reaches hc) hrun

/-- **Every use of a rule comes back.** -/
theorem returns_call (hstart : start.Over text) (hw : w.Steady text) (n : Nat) (h : Handle) :
    Matcher.Returns (Underway text w start capacity n) start (call n h) := by
  induction n generalizing h with
  | zero =>
    intro c u _ hu
    exact absurd hu.room.pos (Nat.lt_irrefl 0)
  | succ n ih =>
    intro c u hc hu
    have hover := hstart.reaches hc
    rcases hcall : call (n + 1) h c u with _ | ⟨r, u'⟩
    · -- It would be stuck in the body of the rule, which is steady.
      obtain ⟨body, hbody, hlookup, hrun⟩ := body_of_call_none hcall
      have hopened := hu.opened hover hc hbody hlookup
      have hbodySteady : body.Steady (w.Consumes text) :=
        hw _ h.rule body hopened.arises (body_resolve hbody)
      obtain ⟨r, u', hends, _⟩ := returns_of_steady hstart ih hbodySteady c _ hc hopened
      rw [hrun] at hends
      cases hends
    · exact ⟨r, u', rfl, hu.call hover hcall,
        (call_sure hover hu.sure hcall).2⟩

/-- **Every run comes back.**  A parser over any rules, left recursive ones included, in
    which each repetition has an upper bound or is of a parser that never succeeds
    without consuming, comes to an outcome at every cursor over a text, under every
    guard whose entries were recorded over the same text. -/
theorem run_returns (hc : c.Over text) (hguard : w.guard.Recorded text) (hw : w.Steady text)
    (hp : p.Steady (w.Consumes text)) : ∃ r w', run p c w = some (r, w') := by
  have hstart : Underway text w c w.book.capacity (w.depthLimit c) w :=
    ⟨.here, hguard.sure, .of_run c w⟩
  obtain ⟨r, w', hrun, _⟩ := returns_of_steady hc (returns_call hc hw _) hp c w (.refl c) hstart
  exact ⟨r, w', hrun⟩

/-- The rule `sum` begins with itself, and all characters are taken before it is used.
    The guard is the one that an earlier run has left. -/
theorem run_returns_left_recursive :
    let item : Parser := .take 1
    let sum : Parser := .rule ⟨⟨0, "sum"⟩, true⟩
    let first : Parser := .rule ⟨⟨1, "first"⟩, true⟩
    let book : RuleBook := [.defined (.choice false (.and sum item) item), .defined item]
    ∃ r w w', run first (.start ['a', 'b']) ⟨book, .empty, .empty, [], []⟩ = some (r, w) ∧
      w.guard.size = 1 ∧ ∃ r, run (.and (.repeated item none none) sum) (.start ['a', 'b']) w =
        some (r, w') := by
  intro item sum first book
  let filled : Guard := ⟨none, [((1, 0), .done (.parsed (.str "a") ⟨1, 1, 2⟩))]⟩
  let w : World := ⟨book, .empty, filled, [], []⟩
  have hfirst : run first (.start ['a', 'b']) ⟨book, .empty, .empty, [], []⟩ = some (_, w) := rfl
  have hguard : w.guard.Recorded ['a', 'b'] :=
    .ran (.fresh (rfl : Guard.empty.entries = [])) (.start _) hfirst
  have hbodies : ∀ rule body, (w.book.slot rule).body = some body →
      body.Steady (w.Consumes ['a', 'b']) := by
    rintro ⟨_ | _ | index, name⟩ body hslot
    · cases hslot
      exact ⟨⟨trivial, trivial⟩, trivial⟩
    · cases hslot
      trivial
    · cases hslot
  have hsteady : w.Steady ['a', 'b'] := by
    refine steady_of_no_deferred hguard ?_ hbodies
    rintro ⟨_ | _ | index, name⟩ <;> rfl
  obtain ⟨r, w', hrun⟩ := run_returns (p := .and (.repeated item none none) sum) (.start ['a', 'b'])
    hguard hsteady ⟨⟨.inr (consumes_take Nat.one_pos), trivial⟩, trivial⟩
  exact ⟨_, w, w', hfirst, rfl, r, hrun⟩

end World

end Descent
