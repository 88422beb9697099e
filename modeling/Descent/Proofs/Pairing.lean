/-
  Descent/Proofs/Pairing.lean
  ===========================
  **Two runs side by side** — when they cannot come apart.

  Two parsers are run, each over a text of its own and in a world of its own.  All that
  a run ever asks of a cursor is what is left to read, whether it stands where another
  one stands, which of two is further on, and what lies between two.  If the cursors of
  the two runs are in front of the same unread text, then so are those that they come
  to, and the answers are the same (`Comparison.Cursors`): the offsets differ by one and
  the same number throughout.

  So the runs go on in step, through every combinator (`Comparison.Twins`) and through
  the guards, which hold corresponding outcomes at corresponding offsets
  (`Comparison.Guards`).  Both come back with corresponding replies, or neither comes
  back (`Comparison.agree_run`).

  Whether failures have to say the same is left open, for no run ever asks what they
  say.
-/
import Descent.Proofs.Expansion
import Descent.Proofs.Kinship

namespace Descent

/-! ### Cursors in front of the same text -/

theorem Cursor.Over.offset_add_rest {text : List Char} {c : Cursor} (hc : c.Over text) :
    c.offset + Text.byteSize c.rest = Text.byteSize text := by
  obtain ⟨before, htext, _, _, hoffset⟩ := hc.exists_before
  rw [htext, Text.byteSize_append, hoffset]

theorem Cursor.Over.sameSpot_iff {text : List Char} {c d : Cursor} (hc : c.Over text)
    (hd : d.Over text) : d.sameSpot c = true ↔ d.offset = c.offset := by
  constructor
  · intro hspot
    exact congrArg Position.offset (of_decide_eq_true hspot)
  · intro hoffset
    rw [hd.eq_of_offset hc hoffset]
    exact decide_eq_true rfl

/-- What two runs are compared by: the texts that they are over, and whether failures
    have to say the same. -/
structure Comparison where
  first : List Char
  second : List Char
  worded : Prop

namespace Comparison

structure Cursors (k : Comparison) (c c' : Cursor) : Prop where
  first : c.Over k.first
  second : c'.Over k.second
  rest_eq : c'.rest = c.rest

variable {k : Comparison}

namespace Cursors

variable {c c' d d' : Cursor}

/-- The offsets differ by as much as the texts do. -/
theorem offset_shift (hc : k.Cursors c c') :
    c.offset + Text.byteSize k.second = c'.offset + Text.byteSize k.first := by
  have hfirst := hc.first.offset_add_rest
  have hsecond := hc.second.offset_add_rest
  rw [hc.rest_eq] at hsecond
  omega

theorem offset_eq_iff (hc : k.Cursors c c') (hd : k.Cursors d d') :
    d'.offset = c'.offset ↔ d.offset = c.offset := by
  have hshift := hc.offset_shift
  have hshift' := hd.offset_shift
  omega

theorem sameSpot_iff (hc : k.Cursors c c') (hd : k.Cursors d d') :
    d.sameSpot c = true ↔ d'.sameSpot c' = true := by
  rw [hc.first.sameSpot_iff hd.first, hc.second.sameSpot_iff hd.second, hc.offset_eq_iff hd]

theorem sliceTo_eq (hc : k.Cursors c c') (hd : k.Cursors d d') :
    c'.sliceTo d' = c.sliceTo d := by
  have hshift := hc.offset_shift
  have hshift' := hd.offset_shift
  have hdistance : d'.offset - c'.offset = d.offset - c.offset := by omega
  rw [Cursor.sliceTo, Cursor.sliceTo, hdistance, hc.rest_eq]

theorem advance (hc : k.Cursors c c') : Option.Rel k.Cursors c.advance? c'.advance? := by
  have hsame := hc.rest_eq
  rcases hrest : c.rest with _ | ⟨ch, rest⟩
  · rw [hrest] at hsame
    simp only [Cursor.advance?, Cursor.step?, hrest, hsame, Option.map_none]
    exact .none
  · rw [hrest] at hsame
    have hstep : c.advance? = some ⟨c.source, c.position.after ch, rest⟩ :=
      Cursor.advance?_eq_some_iff.mpr ⟨ch, hrest, rfl, rfl⟩
    have hstep' : c'.advance? = some ⟨c'.source, c'.position.after ch, rest⟩ :=
      Cursor.advance?_eq_some_iff.mpr ⟨ch, hsame, rfl, rfl⟩
    rw [hstep, hstep']
    exact .some ⟨hc.first.reaches (.step hstep), hc.second.reaches (.step hstep'), rfl⟩

theorem skip (hc : k.Cursors c c') (n : Nat) : k.Cursors (c.skip n) (c'.skip n) := by
  induction n generalizing c c' with
  | zero => exact hc
  | succ n ih =>
    have hadvance := hc.advance
    rw [Cursor.skip, Cursor.skip]
    generalize c.advance? = next at hadvance
    generalize c'.advance? = next' at hadvance
    cases hadvance with
    | none => exact hc
    | some hd => exact ih hd

end Cursors

/-! ### Failures and replies -/

structure Failures (k : Comparison) (f f' : Failure) : Prop where
  remainder : k.Cursors f.remainder f'.remainder
  wording : k.worded → f'.message = f.message ∧ f'.expectations = f.expectations

/-- The replies are of the same kind, with the same value or of the same rule, at
    corresponding cursors. -/
inductive Replies (k : Comparison) : Reply → Reply → Prop where
  | success (v : Value) {d d' : Cursor} (hd : k.Cursors d d') :
    Replies k (.success v d) (.success v d')
  | failure {f f' : Failure} (hf : k.Failures f f') : Replies k (.failure f) (.failure f')
  | leftRecursion (rule : RuleId) {d d' : Cursor} (hd : k.Cursors d d') :
    Replies k (.defect (.leftRecursion rule d)) (.defect (.leftRecursion rule d'))
  | undefinedRule (rule : RuleId) {d d' : Cursor} (hd : k.Cursors d d') :
    Replies k (.defect (.undefinedRule rule d)) (.defect (.undefinedRule rule d'))

/-- The verdicts are the same, but for what a refusal says if that does not matter. -/
inductive Verdicts (k : Comparison) : Verdict → Verdict → Prop where
  | accept (n : Nat) (v : Value) : Verdicts k (.accept n v) (.accept n v)
  | refuse (n : Nat) {message message' : String} {labels labels' : List String}
    (hwording : k.worded → message' = message ∧ labels' = labels) :
    Verdicts k (.refuse n message labels) (.refuse n message' labels')

theorem Verdicts.refl (v : Verdict) : k.Verdicts v v := by
  cases v with
  | accept n v => exact .accept n v
  | refuse n message labels => exact .refuse n fun _ => ⟨rfl, rfl⟩

theorem Replies.place {r r' : Reply} (hr : k.Replies r r') : k.Cursors r.place r'.place := by
  cases hr with
  | success v hd => exact hd
  | failure hf => exact hf.remainder
  | leftRecursion rule hd => exact hd
  | undefinedRule rule hd => exact hd

namespace Failures

variable {f f' g g' : Failure} {c c' : Cursor}

theorem of {message message' : String} {labels labels' : List String} (hc : k.Cursors c c')
    (hwording : k.worded → message' = message ∧ labels' = labels) :
    k.Failures (.of c message labels) (.of c' message' labels') := by
  refine ⟨hc, fun hworded => ?_⟩
  obtain ⟨rfl, rfl⟩ := hwording hworded
  exact ⟨rfl, rfl⟩

theorem consumedFrom_iff (hf : k.Failures f f') (hc : k.Cursors c c') :
    f.consumedFrom c = true ↔ f'.consumedFrom c' = true := by
  simp only [Failure.consumedFrom, Bool.not_eq_true', Bool.eq_false_iff]
  exact not_congr (hc.sameSpot_iff hf.remainder)

theorem furthest (hf : k.Failures f f') (hg : k.Failures g g') :
    k.Failures (f.furthest g) (f'.furthest g') := by
  have hshift := hf.remainder.offset_shift
  have hshift' := hg.remainder.offset_shift
  have hcompare : compare g'.remainder.offset f'.remainder.offset =
      compare g.remainder.offset f.remainder.offset := by
    rcases Nat.lt_trichotomy g.remainder.offset f.remainder.offset with hlt | heq | hgt
    · rw [Nat.compare_eq_lt.mpr hlt, Nat.compare_eq_lt.mpr (by omega)]
    · rw [Nat.compare_eq_eq.mpr heq, Nat.compare_eq_eq.mpr (by omega)]
    · rw [Nat.compare_eq_gt.mpr hgt, Nat.compare_eq_gt.mpr (by omega)]
  rw [Failure.furthest, Failure.furthest, hcompare]
  split
  · exact hg
  · exact hf
  · refine ⟨hf.remainder, fun hworded => ?_⟩
    rw [(hf.wording hworded).1, (hf.wording hworded).2, (hg.wording hworded).2]
    exact ⟨rfl, rfl⟩

/-- The label that a name puts in place of the expectations. -/
theorem named {label label' : String} (hf : k.Failures f f') (hc : k.Cursors c c')
    (hlabel : k.worded → label' = label) :
    k.Failures (if f.consumedFrom c then f else f.relabel label)
      (if f'.consumedFrom c' then f' else f'.relabel label') := by
  by_cases hconsumed : f.consumedFrom c = true
  · rw [if_pos hconsumed, if_pos ((hf.consumedFrom_iff hc).mp hconsumed)]
    exact hf
  · rw [if_neg hconsumed, if_neg fun h => hconsumed ((hf.consumedFrom_iff hc).mpr h)]
    refine ⟨hf.remainder, fun hworded => ?_⟩
    rw [Failure.relabel, Failure.relabel, hlabel hworded, (hf.wording hworded).1]
    exact ⟨rfl, rfl⟩

end Failures

/-! ### Outcomes -/

section Outcomes

variable {σ : Type} {S : σ → σ → Prop}

def Agree (k : Comparison) (S : σ → σ → Prop) (x y : Option (Reply × σ)) : Prop :=
  Option.Rel (fun a b => k.Replies a.1 b.1 ∧ S a.2 b.2) x y

/-- From corresponding cursors, in states that `S` relates, the matchers come to outcomes
    that agree. -/
def Twins (k : Comparison) (S : σ → σ → Prop) (m m' : Matcher σ) : Prop :=
  ∀ c c' s s', k.Cursors c c' → S s s' → k.Agree S (m c s) (m' c' s')

namespace Agree

variable {c c' : Cursor} {s s' : σ}

theorem succeed {v : Value} (hc : k.Cursors c c') (hs : S s s') :
    k.Agree S (Matcher.succeed v c s) (Matcher.succeed v c' s') := .some ⟨.success v hc, hs⟩

theorem fail {f f' : Failure} (hf : k.Failures f f') (hs : S s s') :
    k.Agree S (Matcher.fail f s) (Matcher.fail f' s') := .some ⟨.failure hf, hs⟩

theorem cond {b b' : Prop} [Decidable b] [Decidable b'] {yes no yes' no' : Option (Reply × σ)}
    (hb : b ↔ b') (hyes : k.Agree S yes yes') (hno : k.Agree S no no') :
    k.Agree S (if b then yes else no) (if b' then yes' else no') := by
  by_cases h : b
  · rw [if_pos h, if_pos (hb.mp h)]
    exact hyes
  · rw [if_neg h, if_neg fun h' => h (hb.mpr h')]
    exact hno

/-- What goes on behind twins agrees, if it does behind each pair of replies. -/
theorem handle {m m' : Matcher σ} {onSuccess onSuccess' : Value → Cursor → σ → Option (Reply × σ)}
    {onFailure onFailure' : Failure → σ → Option (Reply × σ)} (hm : k.Agree S (m c s) (m' c' s'))
    (hsuccess : ∀ v d d' t t', k.Cursors d d' → S t t' →
      k.Agree S (onSuccess v d t) (onSuccess' v d' t'))
    (hfailure : ∀ f f' t t', k.Failures f f' → S t t' →
      k.Agree S (onFailure f t) (onFailure' f' t')) :
    k.Agree S (m.handle c s onSuccess onFailure) (m'.handle c' s' onSuccess' onFailure') := by
  unfold Matcher.handle
  generalize m c s = x at hm
  generalize m' c' s' = y at hm
  cases hm with
  | none => exact .none
  | @some a b hboth =>
    obtain ⟨r, t⟩ := a
    obtain ⟨r', t'⟩ := b
    obtain ⟨hreplies, ht⟩ := hboth
    cases hreplies with
    | success v hd => exact hsuccess v _ _ t t' hd ht
    | failure hf => exact hfailure _ _ t t' hf ht
    | leftRecursion rule hd => exact .some ⟨.leftRecursion rule hd, ht⟩
    | undefinedRule rule hd => exact .some ⟨.undefinedRule rule hd, ht⟩

end Agree

/-! ### One combinator at a time -/

theorem handle_succeed_fail (m : Matcher σ) (c : Cursor) (s : σ) :
    m.handle c s Matcher.succeed Matcher.fail = m c s := by
  unfold Matcher.handle
  rcases m c s with _ | ⟨_ | _ | _, _⟩
  · rfl
  · rfl
  · rfl
  · rfl

namespace Twins

variable {p p' q q' : Matcher σ} {c c' : Cursor} {s s' : σ}

theorem inspect {read read' : Cursor → Verdict}
    (hread : ∀ c c', k.Cursors c c' → k.Verdicts (read c) (read' c')) :
    k.Twins S (.inspect read) (.inspect read') := by
  intro c c' s s' hc hs
  have hverdicts := hread c c' hc
  unfold Matcher.inspect
  generalize read c = verdict at hverdicts
  generalize read' c' = verdict' at hverdicts
  cases hverdicts with
  | accept n v => exact .some ⟨.success v (hc.skip n), hs⟩
  | refuse n hwording => exact .some ⟨.failure (.of (hc.skip n) hwording), hs⟩

/-- Matchers whose value is changed in the same way. -/
theorem yielding {value value' : Cursor → Value → Cursor → Value}
    (hvalue : ∀ c c' v d d', k.Cursors c c' → k.Cursors d d' → value' c' v d' = value c v d)
    (hp : k.Twins S p p') :
    k.Twins S
      (fun c s => p.handle c s (fun v d s => Matcher.succeed (value c v d) d s) Matcher.fail)
      (fun c s =>
        p'.handle c s (fun v d s => Matcher.succeed (value' c v d) d s) Matcher.fail) := by
  intro c c' s s' hc hs
  refine .handle (hp c c' s s' hc hs) (fun v d d' t t' hd ht => ?_) fun _ _ _ _ => .fail
  rw [hvalue c c' v d d' hc hd]
  exact .succeed hd ht

theorem map (f : Value → Value) (hp : k.Twins S p p') : k.Twins S (p.map f) (p'.map f) :=
  hp.yielding fun _ _ _ _ _ _ _ => rfl

theorem text (hp : k.Twins S p p') : k.Twins S p.text p'.text := by
  refine hp.yielding fun c c' v d d' hc hd => ?_
  rw [hc.sliceTo_eq hd]

theorem filter {message message' : String} (keep : Value → Bool)
    (hmessage : k.worded → message' = message) (hp : k.Twins S p p') :
    k.Twins S (p.filter keep message) (p'.filter keep message') := by
  intro c c' s s' hc hs
  refine .handle (hp c c' s s' hc hs) (fun v d d' t t' hd ht => ?_) fun _ _ _ _ => .fail
  exact .cond Iff.rfl (.succeed hd ht) (.fail (.of hc fun hworded => ⟨hmessage hworded, rfl⟩) ht)

theorem named {label label' : String} (hlabel : k.worded → label' = label)
    (hp : k.Twins S p p') : k.Twins S (p.named label) (p'.named label') := by
  intro c c' s s' hc hs
  exact .handle (hp c c' s s' hc hs) (fun _ _ _ _ _ => .succeed)
    fun f f' t t' hf => .fail (hf.named hc hlabel)

/-- A name on one side only, where it does not matter what failures say. -/
theorem namedLeft (label : String) (hunworded : ¬ k.worded) (hp : k.Twins S p p') :
    k.Twins S (p.named label) p' := by
  intro c c' s s' hc hs
  rw [← handle_succeed_fail p']
  refine .handle (hp c c' s s' hc hs) (fun _ _ _ _ _ => .succeed) fun f f' t t' hf => .fail ?_
  refine ⟨?_, fun hworded => absurd hworded hunworded⟩
  split
  · exact hf.remainder
  · exact hf.remainder

theorem namedRight (label : String) (hunworded : ¬ k.worded) (hp : k.Twins S p p') :
    k.Twins S p (p'.named label) := by
  intro c c' s s' hc hs
  rw [← handle_succeed_fail p]
  refine .handle (hp c c' s s' hc hs) (fun _ _ _ _ _ => .succeed) fun f f' t t' hf => .fail ?_
  refine ⟨?_, fun hworded => absurd hworded hunworded⟩
  split
  · exact hf.remainder
  · exact hf.remainder

/-- The test of committed combinators, whether a failure is final. -/
theorem committed_iff {f f' : Failure} (committed : Bool) (hf : k.Failures f f')
    (hc : k.Cursors c c') :
    (committed && f.consumedFrom c) = true ↔ (committed && f'.consumedFrom c') = true := by
  simp only [Bool.and_eq_true]
  exact and_congr_right' (hf.consumedFrom_iff hc)

theorem optional (committed : Bool) (hp : k.Twins S p p') :
    k.Twins S (p.optional committed) (p'.optional committed) := by
  intro c c' s s' hc hs
  refine .handle (hp c c' s s' hc hs) (fun _ _ _ _ _ => .succeed) fun f f' t t' hf ht => ?_
  exact .cond (committed_iff committed hf hc) (.fail hf ht) (.succeed hc ht)

theorem preview (hp : k.Twins S p p') : k.Twins S p.preview p'.preview := by
  intro c c' s s' hc hs
  exact .handle (hp c c' s s' hc hs) (fun v d d' t t' _ ht => .succeed hc ht)
    fun f f' t t' _ ht => .succeed hc ht

theorem absent {message message' : String} {labels labels' : List String}
    (hwording : k.worded → message' = message ∧ labels' = labels) (hp : k.Twins S p p') :
    k.Twins S (p.absent message labels) (p'.absent message' labels') := by
  intro c c' s s' hc hs
  exact .handle (hp c c' s s' hc hs) (fun v d d' t t' _ ht => .fail (.of hc hwording) ht)
    fun f f' t t' _ ht => .succeed hc ht

theorem bind {next next' : Value → Matcher σ} (hp : k.Twins S p p')
    (hnext : ∀ v, k.Twins S (next v) (next' v)) : k.Twins S (p.bind next) (p'.bind next') := by
  intro c c' s s' hc hs
  exact .handle (hp c c' s s' hc hs) (fun v d d' t t' hd ht => hnext v d d' t t' hd ht)
    fun _ _ _ _ => .fail

/-- What goes on with a reply goes on in step if it looks at no more of the reply than the
    two runs share. -/
theorem attempt {onSuccess onSuccess' : Value → Cursor → Matcher σ}
    {onFailure onFailure' : Failure → Matcher σ} (hp : k.Twins S p p')
    (hsuccess : ∀ v d d', k.Cursors d d' → k.Twins S (onSuccess v d) (onSuccess' v d'))
    (hfailure : ∀ f f', k.Failures f f' → k.Twins S (onFailure f) (onFailure' f')) :
    k.Twins S (p.attempt onSuccess onFailure) (p'.attempt onSuccess' onFailure') := by
  intro c c' s s' hc hs
  exact .handle (hp c c' s s' hc hs) (fun v d d' t t' hd ht => hsuccess v d d' hd c c' t t' hc ht)
    fun f f' t t' hf ht => hfailure f f' hf c c' t t' hc ht

theorem choice (committed : Bool) (hp : k.Twins S p p') (hq : k.Twins S q q') :
    k.Twins S (.choice committed p q) (.choice committed p' q') := by
  intro c c' s s' hc hs
  refine .handle (hp c c' s s' hc hs) (fun v d d' t t' hd ht => ?_) fun f f' t t' hf ht => ?_
  · refine .cond (hc.sameSpot_iff hd) ?_ (.succeed hd ht)
    exact .handle (hq c c' t t' hc ht) (fun _ _ _ _ _ => .succeed)
      fun g g' t t' _ ht => .succeed hd ht
  · refine .cond (committed_iff committed hf hc) (.fail hf ht) ?_
    exact .handle (hq c c' t t' hc ht) (fun _ _ _ _ _ => .succeed)
      fun g g' t t' hg ht => .fail (hf.furthest hg) ht

theorem sequence {onSuccess onSuccess' : Value → Value → Cursor → σ → Option (Reply × σ)}
    {onFailure onFailure' : Failure → σ → Option (Reply × σ)} (hp : k.Twins S p p')
    (hq : k.Twins S q q') (hc : k.Cursors c c') (hs : S s s')
    (hsuccess : ∀ v w d d' t t', k.Cursors d d' → S t t' →
      k.Agree S (onSuccess v w d t) (onSuccess' v w d' t'))
    (hfailure : ∀ f f' t t', k.Failures f f' → S t t' →
      k.Agree S (onFailure f t) (onFailure' f' t')) :
    k.Agree S (Matcher.sequence p q c s onSuccess onFailure)
      (Matcher.sequence p' q' c' s' onSuccess' onFailure') := by
  refine .handle (hp c c' s s' hc hs) (fun v d d' t t' hd ht => ?_) hfailure
  exact .handle (hq d d' t t' hd ht) (fun w => hsuccess v w) hfailure

theorem and (hp : k.Twins S p p') (hq : k.Twins S q q') : k.Twins S (p.and q) (p'.and q') := by
  intro c c' s s' hc hs
  exact hp.sequence hq hc hs (fun _ _ _ _ _ _ => .succeed) fun _ _ _ _ => .fail

/-! Loops go on in step by induction on their fuel, which is the same on both sides. -/

theorem gather (committed : Bool) (hp : k.Twins S p p') (fuel : Nat) (found : List Value) :
    k.Twins S (Matcher.gather committed p fuel found) (Matcher.gather committed p' fuel found) := by
  induction fuel generalizing found with
  | zero => exact fun _ _ _ _ _ _ => .none
  | succ fuel ih =>
    intro c c' s s' hc hs
    refine .handle (hp c c' s s' hc hs) (fun v d d' t t' hd ht => ?_) fun f f' t t' hf ht => ?_
    · exact .cond (hc.sameSpot_iff hd) (.succeed hc ht) (ih (v :: found) d d' t t' hd ht)
    · exact .cond (committed_iff committed hf hc) (.fail hf ht) (.succeed hc ht)

theorem many (committed : Bool) (hp : k.Twins S p p') :
    k.Twins S (p.many committed) (p'.many committed) := by
  intro c c' s s' hc hs
  rw [Matcher.many, Matcher.many, hc.rest_eq]
  exact hp.gather committed _ [] c c' s s' hc hs

theorem trail (fuel : Nat) {start start' : Cursor} (hstart : k.Cursors start start')
    (hq : k.Twins S q q') :
    k.Twins S (Matcher.trail q start fuel) (Matcher.trail q' start' fuel) := by
  induction fuel with
  | zero => exact fun _ _ _ _ _ _ => .none
  | succ fuel ih =>
    intro c c' s s' hc hs
    rw [Matcher.trail, Matcher.trail, hstart.sliceTo_eq hc]
    refine .handle (hq c c' s s' hc hs) (fun v d d' t t' hd ht => ?_)
      fun f f' t t' _ ht => .succeed hc ht
    exact .cond (hc.sameSpot_iff hd) (.succeed hc ht) (ih d d' t t' hd ht)

theorem identifier (hp : k.Twins S p p') (hq : k.Twins S q q') :
    k.Twins S (p.identifier q) (p'.identifier q') := by
  intro c c' s s' hc hs
  refine .handle (hp c c' s s' hc hs) (fun v d d' t t' hd ht => ?_) fun _ _ _ _ => .fail
  rw [hd.rest_eq]
  exact hq.trail _ hc d d' t t' hd ht

theorem chainLeft (committed : Bool) (combine : Value → Value → Value → Value)
    (hp : k.Twins S p p') (hq : k.Twins S q q') (fuel : Nat) (value : Value) :
    k.Twins S (Matcher.chainLeft committed combine p q fuel value)
      (Matcher.chainLeft committed combine p' q' fuel value) := by
  induction fuel generalizing value with
  | zero => exact fun _ _ _ _ _ _ => .none
  | succ fuel ih =>
    intro c c' s s' hc hs
    refine hp.sequence hq hc hs (fun tag right d d' t t' hd ht => ?_) fun f f' t t' hf ht => ?_
    · exact .cond (hc.sameSpot_iff hd) (.succeed hc ht) (ih _ d d' t t' hd ht)
    · exact .cond (committed_iff committed hf hc) (.fail hf ht) (.succeed hc ht)

theorem chainRight (committed : Bool) (combine : Value → Value → Value → Value)
    (hp : k.Twins S p p') (hq : k.Twins S q q') (fuel : Nat) (waiting : List (Value × Value))
    (value : Value) :
    k.Twins S (Matcher.chainRight committed combine p q fuel waiting value)
      (Matcher.chainRight committed combine p' q' fuel waiting value) := by
  induction fuel generalizing waiting value with
  | zero => exact fun _ _ _ _ _ _ => .none
  | succ fuel ih =>
    intro c c' s s' hc hs
    refine hp.sequence hq hc hs (fun tag right d d' t t' hd ht => ?_) fun f f' t t' hf ht => ?_
    · exact .cond (hc.sameSpot_iff hd) (.succeed hc ht) (ih _ _ d d' t t' hd ht)
    · exact .cond (committed_iff committed hf hc) (.fail hf ht) (.succeed hc ht)

theorem chain (committed : Bool) (grouping : Grouping) (combine : Value → Value → Value → Value)
    (hp : k.Twins S p p') (hq : k.Twins S q q') :
    k.Twins S (.chain committed grouping combine p q)
      (.chain committed grouping combine p' q') := by
  intro c c' s s' hc hs
  refine .handle (hq c c' s s' hc hs) (fun v d d' t t' hd ht => ?_) fun _ _ _ _ => .fail
  rw [hd.rest_eq]
  cases grouping with
  | left => exact hp.chainLeft committed combine hq _ v d d' t t' hd ht
  | right => exact hp.chainRight committed combine hq _ [] v d d' t t' hd ht

section Traced

variable [Traced σ]

theorem settle (hnote : ∀ r r' s s', S s s' → S (Traced.note r s) (Traced.note r' s'))
    (least most : Option Nat) (found : List Value) {start start' : Cursor}
    {stop stop' : Option Failure} (hstart : k.Cursors start start') (hc : k.Cursors c c')
    (hstop : Option.Rel k.Failures stop stop') (hs : S s s') :
    k.Agree S (Matcher.settle least most start found c stop s)
      (Matcher.settle least most start' found c' stop' s') := by
  have hplace :
      k.Cursors ((stop.map (·.remainder)).getD c) ((stop'.map (·.remainder)).getD c') := by
    cases hstop with
    | none => exact hc
    | some hf => exact hf.remainder
  have hwanted : k.worded → (stop'.map (·.expectations)).getD [] =
      (stop.map (·.expectations)).getD [] := by
    cases hstop with
    | none => exact fun _ => rfl
    | some hf => exact fun hworded => (hf.wording hworded).2
  refine .cond Iff.rfl (.fail (.of hstart fun hworded => ?_) (hnote _ _ s s' hs)) (.succeed hc hs)
  rw [hwanted hworded, Matcher.standing, Matcher.standing, Cursor.current?, Cursor.current?,
    hplace.rest_eq]
  exact ⟨rfl, rfl⟩

theorem times (hnote : ∀ r r' s s', S s s' → S (Traced.note r s) (Traced.note r' s'))
    (bounded : Bool) (least most : Option Nat) {start start' : Cursor}
    (hstart : k.Cursors start start') (hp : k.Twins S p p') (fuel : Nat) (found : List Value) :
    k.Twins S (Matcher.times bounded p (Matcher.settle least most start) fuel found)
      (Matcher.times bounded p' (Matcher.settle least most start') fuel found) := by
  induction fuel generalizing found with
  | zero =>
    intro c c' s s' hc hs
    exact .cond Iff.rfl (settle hnote least most found hstart hc .none hs) .none
  | succ fuel ih =>
    intro c c' s s' hc hs
    exact .handle (hp c c' s s' hc hs) (fun v => ih (v :: found))
      fun f f' t t' hf ht => settle hnote least most found hstart hc (.some hf) ht

theorem repeated (hnote : ∀ r r' s s', S s s' → S (Traced.note r s) (Traced.note r' s'))
    (least most : Option Nat) (hp : k.Twins S p p') :
    k.Twins S (p.repeated least most) (p'.repeated least most) := by
  intro c c' s s' hc hs
  rw [Matcher.repeated, Matcher.repeated, hc.rest_eq]
  exact times hnote _ least most hc hp _ [] c c' s s' hc hs

theorem counted (htally : ∀ label s s', S s s' → S (Traced.tally label s) (Traced.tally label s'))
    (label : String) (hp : k.Twins S p p') : k.Twins S (p.counted label) (p'.counted label) :=
  fun c c' s s' hc hs => hp c c' _ _ hc (htally label s s' hs)

end Traced

end Twins

end Outcomes

/-! ### Guards -/

/-- The entries say the same of a rule at corresponding cursors. -/
inductive Entries (k : Comparison) (c c' : Cursor) : Entry → Entry → Prop where
  | expanding : Entries k c c' .expanding .expanding
  | done {memo memo' : Memo} (hmemo : k.Replies (memo.restore c) (memo'.restore c')) :
    Entries k c c' (.done memo) (.done memo')

def Guards (k : Comparison) (g g' : Guard) : Prop :=
  ∀ (rule : RuleId) (c c' : Cursor), k.Cursors c c' →
    Option.Rel (k.Entries c c') (g.lookup? rule c.offset) (g'.lookup? rule c'.offset)

namespace Guards

variable {g g' : Guard} {c c' : Cursor} {rule : RuleId}

theorem of_no_entries (hg : g.entries = []) (hg' : g'.entries = []) : k.Guards g g' := by
  intro rule c c' _
  rw [Guard.lookup?, Guard.lookup?, hg, hg']
  exact .none

/-- Corresponding cursors are under one key in both guards, or in neither. -/
theorem key_ne {other : RuleId} {d d' : Cursor} (hc : k.Cursors c c') (hd : k.Cursors d d')
    (hkey : (other.index, d.offset) ≠ (rule.index, c.offset)) :
    (other.index, d'.offset) ≠ (rule.index, c'.offset) := by
  intro hkey'
  rw [Prod.mk.injEq] at hkey'
  exact hkey (Prod.ext hkey'.1 ((hc.offset_eq_iff hd).mp hkey'.2))

theorem enter (hg : k.Guards g g') (rule : RuleId) (hc : k.Cursors c c') :
    k.Guards (g.enter rule c.offset) (g'.enter rule c'.offset) := by
  intro other d d' hd
  by_cases hkey : (other.index, d.offset) = (rule.index, c.offset)
  · rw [Prod.mk.injEq] at hkey
    have hoffset := (hc.offset_eq_iff hd).mpr hkey.2
    rw [Guard.lookup?, Guard.lookup?, hkey.1, hkey.2, hoffset, ← Guard.lookup?, ← Guard.lookup?,
      Guard.lookup?_enter_self, Guard.lookup?_enter_self]
    exact .some .expanding
  · rw [Guard.lookup?_enter_of_ne hkey, Guard.lookup?_enter_of_ne (key_ne hc hd hkey)]
    exact hg other d d' hd

theorem leave (hg : k.Guards g g') (rule : RuleId) (hc : k.Cursors c c') {r r' : Reply}
    (hr : k.Replies r r') :
    k.Guards (g.leave rule c.offset r) (g'.leave rule c'.offset r') := by
  intro other d d' hd
  by_cases hkey : (other.index, d.offset) = (rule.index, c.offset)
  · rw [Prod.mk.injEq] at hkey
    obtain rfl : d = c := hd.first.eq_of_offset hc.first hkey.2
    obtain rfl : d' = c' :=
      hd.second.eq_of_offset hc.second ((hc.offset_eq_iff hd).mpr hkey.2)
    rw [Guard.lookup?, Guard.lookup?, hkey.1, ← Guard.lookup?, ← Guard.lookup?,
      Guard.lookup?_leave_self, Guard.lookup?_leave_self]
    -- What was kept of the replies brings them back.
    rcases hmemo : Memo.ofReply? r with _ | memo
    · rcases hmemo' : Memo.ofReply? r' with _ | memo'
      · exact .none
      · cases hr <;> cases hmemo <;> cases hmemo'
    · rcases hmemo' : Memo.ofReply? r' with _ | memo'
      · cases hr <;> cases hmemo <;> cases hmemo'
      · refine .some (.done ?_)
        rw [Memo.restore_eq hd.first hr.place.first hmemo,
          Memo.restore_eq hd.second hr.place.second hmemo']
        exact hr
  · rw [Guard.lookup?_leave_of_ne hkey, Guard.lookup?_leave_of_ne (key_ne hc hd hkey)]
    exact hg other d d' hd

end Guards

/-! ### Rules and runs -/

variable {R : Parser → Parser → Prop} {w u : World} {c c' : Cursor}

structure Worlds (k : Comparison) (R : Parser → Parser → Prop) (w u : World) : Prop where
  kin : w.Kin R u
  guards : k.Guards w.guard u.guard

theorem Worlds.note (hw : k.Worlds R w u) (first second : Record) :
    k.Worlds R (w.note first) (u.note second) := ⟨⟨hw.kin.book, hw.kin.registry⟩, hw.guards⟩

theorem Worlds.tally (hw : k.Worlds R w u) (label : String) :
    k.Worlds R (w.tally label) (u.tally label) := ⟨⟨hw.kin.book, hw.kin.registry⟩, hw.guards⟩

theorem Worlds.resolve (hR : Kinship R) (hw : k.Worlds R w u) (h : Handle) :
    k.Worlds R (w.resolve h).2 (u.resolve h).2 := by
  refine ⟨(hw.kin.resolve hR h).2, ?_⟩
  rw [World.guard_resolve, World.guard_resolve]
  exact hw.guards

theorem Worlds.opened (hR : Kinship R) (hw : k.Worlds R w u) (h : Handle) (hc : k.Cursors c c') :
    k.Worlds R (w.opened h c) (u.opened h c') := by
  obtain ⟨hbook, hregistry⟩ := (hw.kin.resolve hR h).2
  exact ⟨⟨hbook, hregistry⟩, hw.guards.enter h.rule hc⟩

theorem Worlds.closed (hw : k.Worlds R w u) (h : Handle) (hc : k.Cursors c c') {r r' : Reply}
    (hr : k.Replies r r') : k.Worlds R (w.closed h c r) (u.closed h c' r') :=
  ⟨⟨hw.kin.book, hw.kin.registry⟩, hw.guards.leave h.rule hc hr⟩

/-- Kindred parsers are twins as soon as every rule is a twin of itself. -/
def Respects (k : Comparison) (R : Parser → Parser → Prop) : Prop :=
  ∀ call : Handle → Matcher World, (∀ h, k.Twins (k.Worlds R) (call h) (call h)) →
    ∀ p q, R p q → k.Twins (k.Worlds R) (p.matcher call) (q.matcher call)

/-- **Rules go in step** in worlds with kindred rules. -/
theorem twins_call (hR : Kinship R) (hrespects : k.Respects R) (n : Nat) (h : Handle) :
    k.Twins (k.Worlds R) (World.call n h) (World.call n h) := by
  induction n generalizing h with
  | zero => exact fun _ _ _ _ _ _ => .none
  | succ n ih =>
    intro c c' w u hc hw
    have hresolved := hw.resolve hR h
    have hbodies := (hw.kin.resolve hR h).1
    have hentries := hw.guards h.rule c c' hc
    generalize hbody : (w.resolve h).1 = found at hbodies
    generalize hbody' : (u.resolve h).1 = found' at hbodies
    cases hbodies with
    | none =>
      rw [World.call_of_unresolved hbody, World.call_of_unresolved hbody']
      exact .some ⟨.undefinedRule h.rule hc, hw⟩
    | @some body body' hkin =>
      rw [World.call_of_resolved hbody, World.call_of_resolved hbody']
      generalize w.guard.lookup? h.rule c.offset = entry at hentries
      generalize u.guard.lookup? h.rule c'.offset = entry' at hentries
      cases hentries with
      | none =>
        have hinner := hrespects _ ih body body' hkin c c' _ _ hc (hw.opened hR h hc)
        simp only
        generalize body.matcher (World.call n) c (w.opened h c) = x at hinner
        generalize body'.matcher (World.call n) c' (u.opened h c') = y at hinner
        cases hinner with
        | none => exact .none
        | some hboth => exact .some ⟨hboth.1, hboth.2.closed h hc hboth.1⟩
      | some hentry =>
        cases hentry with
        | expanding => exact .some ⟨.leftRecursion h.rule hc, hresolved.note _ _⟩
        | done hmemo => exact .some ⟨hmemo, hresolved.note _ _⟩

/-- **Runs of kindred parsers agree** in worlds with kindred rules. -/
theorem agree_run (hR : Kinship R) (hrespects : k.Respects R) {p q : Parser} (hpq : R p q)
    (hc : k.Cursors c c') (hw : k.Worlds R w u) :
    k.Agree (k.Worlds R) (World.run p c w) (World.run q c' u) := by
  have hdepth : u.depthLimit c' = w.depthLimit c := by
    rw [World.depthLimit, World.depthLimit, hw.kin.book.capacity_eq, hc.rest_eq]
  rw [World.run, World.run, hdepth]
  exact hrespects _ (twins_call hR hrespects _) p q hpq c c' w u hc hw

end Comparison

end Descent
