/-
  Descent/Proofs/Shift.lean
  =========================
  **Only the unread text decides** — as long as nothing asks for the place.

  A cursor knows its text, its place and what was read before it.  A parser gets to see
  all of that, but there are only two ways to look at more than the unread text: a
  primitive reader that is given the cursor, and the span of a value.  A parser without
  them is blind to where it stands (`Parser.Blind`).

  A blind parser is run at two cursors in front of the same unread text, over texts that
  may differ in all that comes before.  The guards keep outcomes under offsets, which
  are not the same in the two runs; they are shifted by one number.  Both runs pass the
  same characters, and reply the same behind them (`World.run_shifted`).
-/
import Descent.Proofs.Forward
import Descent.Proofs.Pairing

namespace Descent

/-- Nothing in the parser looks at the place or at the text before it: no value carries
    its span, and what a reader of a cursor decides, or who goes on with a reply, depends on
    the unread text alone. -/
def Parser.Blind : Parser → Prop
  | .scan _ | .rule _ => True
  | .inspect read => ∀ c d : Cursor, c.rest = d.rest → read c = read d
  | .positioned _ => False
  | .map _ p | .filter p _ _ | .text p | .named p _ | .many _ p | .repeated p _ _
  | .optional _ p | .preview p | .absent p _ _ | .counted _ p => p.Blind
  | .and p q | .choice _ p q | .identifier p q | .chain _ _ _ p q => p.Blind ∧ q.Blind
  | .bind p _ next => p.Blind ∧ ∀ v, (next v).Blind
  | .attempt p _ onSuccess onFailure =>
    p.Blind ∧ (∀ v c d, c.rest = d.rest → onSuccess v c = onSuccess v d) ∧
      (∀ f g : Failure, f.remainder.rest = g.remainder.rest → f.message = g.message →
        f.expectations = g.expectations → onFailure f = onFailure g) ∧
      (∀ v d, (onSuccess v d).Blind) ∧ ∀ f, (onFailure f).Blind

theorem kinship_blind : Kinship (Parser.only Parser.Blind) where
  rule _ := ⟨rfl, True.intro⟩
  broken _ := ⟨rfl, True.intro⟩

/-- **Blind parsers do the same in front of the same text**, if rules do. -/
theorem Comparison.respects_blind (k : Comparison) (hworded : k.worded) :
    k.Respects (Parser.only Parser.Blind) := by
  rintro call hcall p _ ⟨rfl, hp⟩
  induction p with
  | scan read =>
    have hread : ∀ c c', k.Cursors c c' → k.Verdicts (read c.rest) (read c'.rest) := by
      intro c c' hc
      rw [hc.rest_eq]
      exact .refl _
    exact .inspect hread
  | inspect read =>
    have hread : ∀ c c', k.Cursors c c' → k.Verdicts (read c) (read c') := by
      intro c c' hc
      rw [hp c' c hc.rest_eq]
      exact .refl _
    exact .inspect hread
  | map f p ih => exact (ih hp).map f
  | and p q ihp ihq => exact (ihp hp.1).and (ihq hp.2)
  | bind p held next ihp ihnext => exact (ihp hp.1).bind fun v => ihnext v (hp.2 v)
  | attempt p held onSuccess onFailure ihp ihsuccess ihfailure =>
    obtain ⟨hp, hsuccess, hfailure, hsuccesses, hfailures⟩ := hp
    refine (ihp hp).attempt (fun v d d' hd => ?_) fun f f' hf => ?_
    · rw [hsuccess v d' d hd.rest_eq]
      exact ihsuccess v d (hsuccesses v d)
    · obtain ⟨hmessage, hexpectations⟩ := hf.wording hworded
      rw [hfailure f' f hf.remainder.rest_eq hmessage hexpectations]
      exact ihfailure f (hfailures f)
  | filter p keep message ih => exact (ih hp).filter keep fun _ => rfl
  | text p ih => exact (ih hp).text
  | positioned p _ => exact False.elim hp
  | named p label ih => exact (ih hp).named fun _ => rfl
  | choice committed p q ihp ihq => exact (ihp hp.1).choice committed (ihq hp.2)
  | many committed p ih => exact (ih hp).many committed
  | repeated p least most ih =>
    exact (ih hp).repeated (fun r r' _ _ hs => hs.note r r') least most
  | optional committed p ih => exact (ih hp).optional committed
  | preview p ih => exact (ih hp).preview
  | absent p message labels ih => exact (ih hp).absent fun _ => ⟨rfl, rfl⟩
  | identifier first tail ihfirst ihtail => exact (ihfirst hp.1).identifier (ihtail hp.2)
  | chain committed grouping combine operator operand ihoperator ihoperand =>
    exact (ihoperator hp.1).chain committed grouping combine (ihoperand hp.2)
  | counted label p ih => exact (ih hp).counted (fun label _ _ hs => hs.tally label) label
  | rule h => exact hcall h

/-! ### Replies from two places -/

/-- From two cursors, the same characters are passed, and the replies say the same. -/
inductive Reply.Shifted (c c' : Cursor) : Reply → Reply → Prop where
  | success (v : Value) (consumed : List Char) {d d' : Cursor} (hd : c.Passes consumed d)
    (hd' : c'.Passes consumed d') : Shifted c c' (.success v d) (.success v d')
  | failure (passed : List Char) {f f' : Failure} (hf : c.Passes passed f.remainder)
    (hf' : c'.Passes passed f'.remainder) (hmessage : f'.message = f.message)
    (hexpectations : f'.expectations = f.expectations) :
    Shifted c c' (.failure f) (.failure f')
  | leftRecursion (rule : RuleId) (passed : List Char) {d d' : Cursor} (hd : c.Passes passed d)
    (hd' : c'.Passes passed d') :
    Shifted c c' (.defect (.leftRecursion rule d)) (.defect (.leftRecursion rule d'))
  | undefinedRule (rule : RuleId) (passed : List Char) {d d' : Cursor} (hd : c.Passes passed d)
    (hd' : c'.Passes passed d') :
    Shifted c c' (.defect (.undefinedRule rule d)) (.defect (.undefinedRule rule d'))

variable {k : Comparison} {c c' d d' : Cursor} {r r' : Reply}

theorem Cursor.Passes.shift {between : List Char} (h : c.Passes between d)
    (hc : k.Cursors c c') (hd : k.Cursors d d') : c'.Passes between d' := by
  have hshift := hc.offset_shift
  have hshift' := hd.offset_shift
  have hoffset := h.offset_eq
  refine ⟨?_, by omega⟩
  rw [hc.rest_eq, hd.rest_eq]
  exact h.rest_eq

theorem Comparison.Replies.shifted (hr : k.Replies r r') (hworded : k.worded)
    (hc : k.Cursors c c') (hreach : c.Reaches r.place) : r.Shifted c c' r' := by
  obtain ⟨passed, hpasses⟩ := hreach.passes
  have hpasses' := hpasses.shift hc hr.place
  cases hr with
  | success v _ => exact .success v passed hpasses hpasses'
  | failure hf =>
    obtain ⟨hmessage, hexpectations⟩ := hf.wording hworded
    exact .failure passed hpasses hpasses' hmessage hexpectations
  | leftRecursion rule _ => exact .leftRecursion rule passed hpasses hpasses'
  | undefinedRule rule _ => exact .undefinedRule rule passed hpasses hpasses'

namespace World

/-- **Runs depend on the unread text alone.**  A blind parser, in worlds with the same
    rules, all of them blind, and with guards that know nothing, is run at two cursors in
    front of the same unread text, whatever their texts, offsets, lines and columns.
    Either neither run comes back, or both do: with the same value behind the same
    consumed text, with the same message and expectations behind the same distance, or
    with the same kind of defect of the same rule behind the same distance. -/
theorem run_shifted {text text' : List Char} {p : Parser} {w u : World} (hp : p.Blind)
    (hw : w.Bodies Parser.Blind) (hsame : SameRules w u) (hc : c.Over text)
    (hc' : c'.Over text') (hrest : c'.rest = c.rest) (hguard : w.guard.entries = [])
    (hguard' : u.guard.entries = []) :
    Option.Rel (fun x y => x.1.Shifted c c' y.1) (run p c w) (run p c' u) := by
  let k : Comparison := ⟨text, text', True⟩
  have hcursors : k.Cursors c c' := ⟨hc, hc', hrest⟩
  have hagree := k.agree_run kinship_blind (k.respects_blind True.intro) ⟨rfl, hp⟩ hcursors
    ⟨hw.kin hsame, .of_no_entries hguard hguard'⟩
  rcases hrun : run p c w with _ | ⟨r, w'⟩
  · rw [hrun] at hagree
    generalize run p c' u = y at hagree
    cases hagree
    exact .none
  · rw [hrun] at hagree
    generalize run p c' u = y at hagree
    cases hagree with
    | some hboth =>
      have hreach := (matcher_keeps .trivial hc ⟨.of_no_entries hguard, True.intro⟩ hrun).2
      exact .some (hboth.1.shifted True.intro hcursors hreach)

/-- A rule whose body is still to be built is used twice at one place, at
    the start of a text and on the second line of another one. -/
theorem run_shifted_second_line :
    let item : Parser := .rule ⟨⟨0, "item"⟩, true⟩
    let items : Parser := .and (.preview item) item
    let w : World := ⟨[.deferred ⟨.build (.leaf (.take 1)), []⟩], .empty, .empty, [], []⟩
    let first : Cursor := .start ['a', 'b']
    let second : Cursor := (Cursor.start ['é', '\n', 'a', 'b']).skip 2
    ∃ r w' r' u', run items first w = some (r, w') ∧ run items second w = some (r', u') ∧
      w'.journal = [.served ⟨0, "item"⟩ .start, .resolving ⟨0, "item"⟩] ∧
      u'.journal = [.served ⟨0, "item"⟩ ⟨3, 2, 1⟩, .resolving ⟨0, "item"⟩] ∧
      r.Shifted first second r' := by
  intro item items w first second
  have hblind : items.Blind := ⟨True.intro, True.intro⟩
  have hbodies : w.Bodies Parser.Blind :=
    ⟨.cons (.deferred ⟨rfl, .build (.leaf ⟨rfl, True.intro⟩)⟩) .nil, rfl, .nil⟩
  have hshifted := run_shifted hblind hbodies (.refl w) (.start ['a', 'b'])
    (.skip 2 (.start ['é', '\n', 'a', 'b'])) rfl rfl rfl
  have hfirst : (run items first w).map (·.2.journal) =
      some [.served ⟨0, "item"⟩ .start, .resolving ⟨0, "item"⟩] := rfl
  have hsecond : (run items second w).map (·.2.journal) =
      some [.served ⟨0, "item"⟩ ⟨3, 2, 1⟩, .resolving ⟨0, "item"⟩] := rfl
  change Option.Rel _ (run items first w) (run items second w) at hshifted
  generalize run items first w = x at hshifted hfirst ⊢
  generalize run items second w = y at hshifted hsecond ⊢
  cases hshifted with
  | none => cases hfirst
  | some hreplies =>
    exact ⟨_, _, _, _, rfl, rfl, Option.some.inj hfirst, Option.some.inj hsecond, hreplies⟩

end World

end Descent
