/-
  Descent/Proofs/Labels.lean
  ==========================
  **Labels never steer** — what failures say has no part in how a run goes on.

  Two grammars are alike up to labels if one comes from the other by putting names on
  parsers or taking them off, by calling classes of characters differently, and by
  changing what filters say (`Parser.Relabelled`).  That may be done in the bodies of
  rules as well, built or not (`World.Kin Parser.Relabelled`).

  The labels end up in failures; these are merged by alternatives, kept by guards and
  brought back from there, and repetitions make new ones of them.  But whether a run goes
  on behind a failure is decided by its place.  So both grammars give the same values,
  stop at the same places and report the same defects (`World.run_relabelled`).
-/
import Descent.Proofs.Pairing

namespace Descent

/-- The parsers are the same up to names, the descriptions of classes of characters and
    the messages of filters. -/
inductive Parser.Relabelled : Parser → Parser → Prop where
  | nameLeft {p q : Parser} (label : String) (hp : Relabelled p q) :
    Relabelled (.named p label) q
  | nameRight {p q : Parser} (label : String) (hp : Relabelled p q) :
    Relabelled p (.named q label)
  | char (accepts : Char → Bool) (description description' : String) :
    Relabelled (.char ⟨accepts, description⟩) (.char ⟨accepts, description'⟩)
  | filter {p q : Parser} (keep : Value → Bool) (message message' : String)
    (hp : Relabelled p q) : Relabelled (.filter p keep message) (.filter q keep message')
  | scan (read : Scanner) : Relabelled (.scan read) (.scan read)
  | inspect (read : Cursor → Verdict) : Relabelled (.inspect read) (.inspect read)
  | map {p q : Parser} (f : Value → Value) (hp : Relabelled p q) :
    Relabelled (.map f p) (.map f q)
  | and {p p' q q' : Parser} (hp : Relabelled p p') (hq : Relabelled q q') :
    Relabelled (.and p q) (.and p' q')
  /-- Which handles the parsers to come hold makes no difference to a run. -/
  | bind {p q : Parser} {held held' : List Handle} {next next' : Value → Parser}
    (hp : Relabelled p q) (hnext : ∀ v, Relabelled (next v) (next' v)) :
    Relabelled (.bind p held next) (.bind q held' next')
  /-- What goes on behind a failure may look at its place alone. -/
  | attempt {p q : Parser} {held held' : List Handle}
    {onSuccess onSuccess' : Value → Cursor → Parser} {onFailure onFailure' : Failure → Parser}
    (hp : Relabelled p q) (hsuccess : ∀ v d, Relabelled (onSuccess v d) (onSuccess' v d))
    (hfailure : ∀ f f' : Failure, f'.remainder = f.remainder →
      Relabelled (onFailure f) (onFailure' f')) :
    Relabelled (.attempt p held onSuccess onFailure) (.attempt q held' onSuccess' onFailure')
  | text {p q : Parser} (hp : Relabelled p q) : Relabelled (.text p) (.text q)
  | positioned {p q : Parser} (hp : Relabelled p q) :
    Relabelled (.positioned p) (.positioned q)
  | choice {p p' q q' : Parser} (committed : Bool) (hp : Relabelled p p')
    (hq : Relabelled q q') : Relabelled (.choice committed p q) (.choice committed p' q')
  | many {p q : Parser} (committed : Bool) (hp : Relabelled p q) :
    Relabelled (.many committed p) (.many committed q)
  | repeated {p q : Parser} (least most : Option Nat) (hp : Relabelled p q) :
    Relabelled (.repeated p least most) (.repeated q least most)
  | optional {p q : Parser} (committed : Bool) (hp : Relabelled p q) :
    Relabelled (.optional committed p) (.optional committed q)
  | preview {p q : Parser} (hp : Relabelled p q) : Relabelled (.preview p) (.preview q)
  | absent {p q : Parser} (message : String) (labels : List String) (hp : Relabelled p q) :
    Relabelled (.absent p message labels) (.absent q message labels)
  | identifier {p p' q q' : Parser} (hp : Relabelled p p') (hq : Relabelled q q') :
    Relabelled (.identifier p q) (.identifier p' q')
  | chain {p p' q q' : Parser} (committed : Bool) (grouping : Grouping)
    (combine : Value → Value → Value → Value) (hp : Relabelled p p') (hq : Relabelled q q') :
    Relabelled (.chain committed grouping combine p q) (.chain committed grouping combine p' q')
  | counted {p q : Parser} (label : String) (hp : Relabelled p q) :
    Relabelled (.counted label p) (.counted label q)
  | rule (h : Handle) : Relabelled (.rule h) (.rule h)

theorem kinship_relabelled : Kinship Parser.Relabelled where
  rule h := .rule h
  broken _ := .scan _

namespace Comparison

variable {k : Comparison} {c c' : Cursor} {σ : Type} {S : σ → σ → Prop}

/-- Cursors over one text, in front of the same unread text, are the same. -/
theorem Cursors.eq (hc : k.Cursors c c') (htext : k.second = k.first) : c' = c := by
  have hshift := hc.offset_shift
  have hsecond := hc.second
  rw [htext] at hshift hsecond
  exact hsecond.eq_of_offset hc.first (Nat.add_right_cancel hshift).symm

theorem verdicts_char (hunworded : ¬ k.worded) (accepts : Char → Bool)
    (description description' : String) (rest : List Char) :
    k.Verdicts (CharClass.scanner ⟨accepts, description⟩ rest)
      (CharClass.scanner ⟨accepts, description'⟩ rest) := by
  have hmiss : k.Verdicts (Scanner.miss 0 rest description) (Scanner.miss 0 rest description') :=
    .refuse 0 fun hworded => absurd hworded hunworded
  cases rest with
  | nil => exact hmiss
  | cons ch rest =>
    simp only [CharClass.scanner]
    split
    · exact .accept 1 (.char ch)
    · exact hmiss

/-- **Relabelled parsers do the same**, if rules do, over one text. -/
theorem respects_relabelled (htext : k.second = k.first) (hunworded : ¬ k.worded) :
    k.Respects Parser.Relabelled := by
  intro call hcall p q hpq
  have hwording : ∀ {P : Prop}, k.worded → P := fun hworded => absurd hworded hunworded
  induction hpq with
  | nameLeft label _ ih => exact ih.namedLeft label hunworded
  | nameRight label _ ih => exact ih.namedRight label hunworded
  | char accepts description description' =>
    have hread : ∀ c c', k.Cursors c c' →
        k.Verdicts (CharClass.scanner ⟨accepts, description⟩ c.rest)
          (CharClass.scanner ⟨accepts, description'⟩ c'.rest) := by
      intro c c' hc
      rw [hc.rest_eq]
      exact verdicts_char hunworded accepts description description' c.rest
    exact .inspect hread
  | filter keep message message' _ ih => exact ih.filter keep hwording
  | scan read =>
    have hread : ∀ c c', k.Cursors c c' → k.Verdicts (read c.rest) (read c'.rest) := by
      intro c c' hc
      rw [hc.rest_eq]
      exact .refl _
    exact .inspect hread
  | inspect read =>
    have hread : ∀ c c', k.Cursors c c' → k.Verdicts (read c) (read c') := by
      intro c c' hc
      rw [hc.eq htext]
      exact .refl _
    exact .inspect hread
  | map f _ ih => exact ih.map f
  | and _ _ ihp ihq => exact ihp.and ihq
  | bind _ _ ihp ihnext => exact ihp.bind ihnext
  | attempt _ _ _ ihp ihsuccess ihfailure =>
    refine ihp.attempt (fun v d d' hd => ?_) fun f f' hf => ihfailure f f' (hf.remainder.eq htext)
    rw [hd.eq htext]
    exact ihsuccess v d
  | text _ ih => exact ih.text
  | positioned _ ih =>
    refine ih.yielding fun c c' v d d' hc hd => ?_
    rw [hc.eq htext, hd.eq htext]
  | choice committed _ _ ihp ihq => exact ihp.choice committed ihq
  | many committed _ ih => exact ih.many committed
  | repeated least most _ ih =>
    exact ih.repeated (fun r r' _ _ hs => hs.note r r') least most
  | optional committed _ ih => exact ih.optional committed
  | preview _ ih => exact ih.preview
  | absent message labels _ ih => exact ih.absent hwording
  | identifier _ _ ihp ihq => exact ihp.identifier ihq
  | chain committed grouping combine _ _ ihp ihq => exact ihp.chain committed grouping combine ihq
  | counted label _ ih => exact ih.counted (fun label _ _ hs => hs.tally label) label
  | rule h => exact hcall h

end Comparison

/-- The replies differ only in what failures say. -/
inductive Reply.Reworded : Reply → Reply → Prop where
  | success (v : Value) (d : Cursor) : Reworded (.success v d) (.success v d)
  | failure {f f' : Failure} (hremainder : f'.remainder = f.remainder) :
    Reworded (.failure f) (.failure f')
  | defect (e : Defect) : Reworded (.defect e) (.defect e)

theorem Comparison.Replies.reworded {k : Comparison} {r r' : Reply} (hr : k.Replies r r')
    (htext : k.second = k.first) : r.Reworded r' := by
  cases hr with
  | success v hd =>
    rw [hd.eq htext]
    exact .success v _
  | failure hf => exact .failure (hf.remainder.eq htext)
  | leftRecursion rule hd =>
    rw [hd.eq htext]
    exact .defect _
  | undefinedRule rule hd =>
    rw [hd.eq htext]
    exact .defect _

namespace World

/-- **Labels never steer a run.**  Two parsers that are the same up to labels are run in
    worlds whose rules are the same up to labels, at one cursor over a text, under guards
    that know nothing.  Either neither run comes back, or both do: with the same value and
    the same remainder, with failures at the same place, or with the same defect. -/
theorem run_relabelled {text : List Char} {c : Cursor} {p q : Parser} {w u : World}
    (hpq : p.Relabelled q) (hkin : w.Kin Parser.Relabelled u) (hc : c.Over text)
    (hguard : w.guard.entries = []) (hguard' : u.guard.entries = []) :
    Option.Rel (fun x y => x.1.Reworded y.1) (run p c w) (run q c u) := by
  let k : Comparison := ⟨text, text, False⟩
  have hcursors : k.Cursors c c := ⟨hc, hc, rfl⟩
  have hagree := k.agree_run kinship_relabelled
    (k.respects_relabelled rfl not_false) hpq hcursors
    ⟨hkin, .of_no_entries hguard hguard'⟩
  generalize run p c w = x at hagree ⊢
  generalize run q c u = y at hagree ⊢
  cases hagree with
  | none => exact .none
  | some hboth => exact .some (hboth.1.reworded rfl)

/-- The body of a rule has a name in the one grammar only; a filter says something else in
    the other, and a class of characters is called differently.  Both alternatives fail
    behind the first character, and the failures are merged. -/
theorem run_relabelled_everywhere :
    let item : Parser := .rule ⟨⟨0, "item"⟩, true⟩
    let isA (ch : Char) : Bool := ch = 'a'
    let grammar (message label : String) : Parser :=
      .or (.and item (.filter item (fun _ => false) message))
        (.and item (.char ⟨fun _ => false, label⟩))
    let w : World :=
      ⟨[.deferred ⟨.build (.unary (.named · "item") (.leaf (.char ⟨isA, "a"⟩))), []⟩],
        .empty, .empty, [], []⟩
    let u : World :=
      ⟨[.deferred ⟨.build (.leaf (.char ⟨isA, "letter"⟩)), []⟩], .empty, .empty, [], []⟩
    ∃ f w' g u', run (grammar "taken" "none") (.start ['a', 'a']) w = some (.failure f, w') ∧
      run (grammar "in use" "nothing") (.start ['a', 'a']) u = some (.failure g, u') ∧
      (f.message, f.expectations) = ("taken", ["none"]) ∧
      (g.message, g.expectations) = ("in use", ["nothing"]) ∧
      (Reply.failure f).Reworded (.failure g) := by
  intro item isA grammar w u
  have hgrammars : (grammar "taken" "none").Relabelled (grammar "in use" "nothing") :=
    .choice false (.and (.rule _) (.filter _ _ _ (.rule _))) (.and (.rule _) (.char _ _ _))
  have hplans : Blueprint.Kin Parser.Relabelled
      (.unary (.named · "item") (.leaf (.char ⟨isA, "a"⟩))) (.leaf (.char ⟨isA, "letter"⟩)) :=
    .left (fun _ _ => .nameLeft "item") (.leaf (.char isA "a" "letter"))
  have hworlds : w.Kin Parser.Relabelled u :=
    ⟨.cons (.deferred ⟨rfl, .build hplans⟩) .nil, rfl, .nil⟩
  have hreworded := run_relabelled hgrammars hworlds (.start ['a', 'a']) rfl rfl
  have hfirst : (run (grammar "taken" "none") (.start ['a', 'a']) w).map (·.1) =
      some (.failure ⟨⟨['a', 'a'], ⟨1, 1, 2⟩, ['a']⟩, "taken", ["none"]⟩) := rfl
  have hsecond : (run (grammar "in use" "nothing") (.start ['a', 'a']) u).map (·.1) =
      some (.failure ⟨⟨['a', 'a'], ⟨1, 1, 2⟩, ['a']⟩, "in use", ["nothing"]⟩) := rfl
  generalize run (grammar "taken" "none") (.start ['a', 'a']) w = x at hreworded hfirst ⊢
  generalize run (grammar "in use" "nothing") (.start ['a', 'a']) u = y at hreworded hsecond ⊢
  cases hreworded with
  | none => cases hfirst
  | @some x y hreplies =>
    obtain ⟨r, w'⟩ := x
    obtain ⟨r', u'⟩ := y
    cases hfirst
    cases hsecond
    exact ⟨_, w', _, u', rfl, rfl, rfl, rfl, hreplies⟩

end World

end Descent
