/-
  Descent/Proofs/Outcomes.lean
  ============================
  **Demands on outcomes** — what a parser makes sure of if its rules do.

  A demand is about the state that a run leaves, about the failures it ends in, and
  possibly about whether it comes back at all, and not before the place where it began.
  Every combinator fulfils a demand if its parts do.  Loops that look at the place go on
  only with less to read, so they never use up their fuel.  A counted repetition does not
  look at the place: it comes back if it has an upper bound, or if its part never succeeds
  where it started.  A parser is steady if that is so of each of its repetitions
  (`Parser.Steady`).
-/
import Descent.Matcher
import Descent.Proofs.Dialogue

namespace Descent

/-- What is demanded of every run. -/
structure Demand (σ : Type) where
  state : σ → Prop
  failure : Failure → Prop
  /-- Runs come back, and not before the place where they began. -/
  total : Prop

namespace Demand

variable {σ : Type}

def Behind (D : Demand σ) (c d : Cursor) : Prop := D.total → c.Reaches d

def Met (D : Demand σ) (c : Cursor) : Option (Reply × σ) → Prop
  | none => ¬ D.total
  | some (r, s) => D.state s ∧ D.Behind c r.place ∧ ∀ f, r = .failure f → D.failure f

/-- What combinators do to failures is as demanded. -/
structure Lenient (D : Demand σ) : Prop where
  made : ∀ c message labels, D.failure (.of c message labels)
  relabelled : ∀ (f : Failure) label, D.failure (f.relabel label)
  pooled : ∀ (f g : Failure), D.failure f → D.failure g → D.failure (f.furthest g)

variable {D : Demand σ} {start c d e : Cursor} {s : σ}

theorem Behind.refl (c : Cursor) : D.Behind c c := fun _ => .refl c

theorem Behind.trans (h : D.Behind c d) (h' : D.Behind d e) : D.Behind c e :=
  fun ht => (h ht).trans (h' ht)

theorem Behind.furthest {f g : Failure} (hf : D.Behind c f.remainder)
    (hg : D.Behind c g.remainder) : D.Behind c (f.furthest g).remainder :=
  fun ht => Failure.reaches_furthest (hf ht) (hg ht)

namespace Met

theorem succeed {v : Value} (hd : D.Behind c d) (hs : D.state s) :
    D.Met c (Matcher.succeed v d s) := ⟨hs, hd, nofun⟩

theorem fail {f : Failure} (hplace : D.Behind c f.remainder) (hf : D.failure f) (hs : D.state s) :
    D.Met c (Matcher.fail f s) := by
  refine ⟨hs, hplace, fun g hg => ?_⟩
  cases hg
  exact hf

theorem mono {x : Option (Reply × σ)} (hce : D.Behind c e) (hx : D.Met e x) : D.Met c x := by
  rcases x with _ | ⟨r, s⟩
  · exact hx
  · exact ⟨hx.1, hce.trans hx.2.1, hx.2.2⟩

theorem cond {b : Prop} [Decidable b] {yes no : Option (Reply × σ)} (hyes : b → D.Met c yes)
    (hno : ¬ b → D.Met c no) : D.Met c (if b then yes else no) := by
  by_cases hb : b
  · rw [if_pos hb]
    exact hyes hb
  · rw [if_neg hb]
    exact hno hb

/-- What goes on as demanded behind a matcher, where that does as demanded. -/
theorem handle {m : Matcher σ} {onSuccess : Value → Cursor → σ → Option (Reply × σ)}
    {onFailure : Failure → σ → Option (Reply × σ)} (hm : D.Met e (m e s)) (hce : D.Behind c e)
    (hsuccess : ∀ v d s', m e s = some (.success v d, s') → D.Behind e d → D.state s' →
      D.Met c (onSuccess v d s'))
    (hfailure : ∀ f s', D.Behind e f.remainder → D.failure f → D.state s' →
      D.Met c (onFailure f s')) :
    D.Met c (m.handle e s onSuccess onFailure) := by
  rcases hrun : m e s with _ | ⟨r, s'⟩
  · rw [hrun] at hm
    rw [Matcher.handle_of_none hrun]
    exact hm
  · rw [hrun] at hm
    obtain ⟨hs', hplace, hf⟩ := hm
    cases r with
    | success v d =>
      rw [Matcher.handle_of_success hrun]
      exact hsuccess v d s' hrun hplace hs'
    | failure f =>
      rw [Matcher.handle_of_failure hrun]
      exact hfailure f s' hplace (hf f rfl) hs'
    | defect x =>
      rw [Matcher.handle_of_defect hrun]
      exact ⟨hs', hce.trans hplace, nofun⟩

end Met

end Demand

namespace Matcher

variable {σ : Type}

def Fulfils (D : Demand σ) (start : Cursor) (m : Matcher σ) : Prop :=
  ∀ c s, D.Behind start c → D.state s → D.Met c (m c s)

def Moves (I : σ → Prop) (start : Cursor) (m : Matcher σ) : Prop :=
  ∀ c s v d s', start.Reaches c → I s → m c s = some (.success v d, s') →
    ¬ d.sameSpot c = true

/-! ### One combinator at a time -/

namespace Fulfils

variable {D : Demand σ} {start c e : Cursor} {s : σ} {p q : Matcher σ}

theorem inspect (hD : D.Lenient) (read : Cursor → Verdict) : Fulfils D start (.inspect read) := by
  intro c s _ hs
  have hplace : c.Reaches (conclude c (read c)).place := by
    rcases read c with ⟨n, v⟩ | ⟨n, message, labels⟩
    · exact .skip n c
    · exact .skip n c
  refine ⟨hs, fun _ => hplace, fun f hf => ?_⟩
  rcases hread : read c with ⟨n, v⟩ | ⟨n, message, labels⟩
  · rw [hread] at hf
    cases hf
  · rw [hread] at hf
    cases hf
    exact hD.made _ message labels

/-- A matcher whose value is changed, whatever the change looks at. -/
theorem yielding (value : Cursor → Value → Cursor → Value) (hp : Fulfils D start p) :
    Fulfils D start fun c s =>
      p.handle c s (fun v d s => succeed (value c v d) d s) Matcher.fail := by
  intro c s hc hs
  exact .handle (hp c s hc hs) (.refl c) (fun v d s' _ hd hs' => .succeed hd hs')
    (fun f s' hplace hf hs' => .fail hplace hf hs')

theorem filter (hD : D.Lenient) (keep : Value → Bool) (message : String)
    (hp : Fulfils D start p) : Fulfils D start (p.filter keep message) := by
  intro c s hc hs
  refine .handle (hp c s hc hs) (.refl c) (fun v d s' _ hd hs' => ?_)
    (fun f s' hplace hf hs' => .fail hplace hf hs')
  exact .cond (fun _ => .succeed hd hs') (fun _ => .fail (.refl c) (hD.made _ _ _) hs')

theorem named (hD : D.Lenient) (label : String) (hp : Fulfils D start p) :
    Fulfils D start (p.named label) := by
  intro c s hc hs
  refine .handle (hp c s hc hs) (.refl c) (fun v d s' _ hd hs' => .succeed hd hs')
    (fun f s' hplace hf hs' => .fail ?_ ?_ hs')
  · split
    · exact hplace
    · exact hplace
  · split
    · exact hf
    · exact hD.relabelled f label

theorem optional (committed : Bool) (hp : Fulfils D start p) :
    Fulfils D start (p.optional committed) := by
  intro c s hc hs
  refine .handle (hp c s hc hs) (.refl c) (fun v d s' _ hd hs' => .succeed hd hs')
    (fun f s' hplace hf hs' => ?_)
  exact .cond (fun _ => .fail hplace hf hs') (fun _ => .succeed (.refl c) hs')

theorem preview (hp : Fulfils D start p) : Fulfils D start p.preview := by
  intro c s hc hs
  exact .handle (hp c s hc hs) (.refl c) (fun v d s' _ _ hs' => .succeed (.refl c) hs')
    (fun f s' _ _ hs' => .succeed (.refl c) hs')

theorem absent (hD : D.Lenient) (message : String) (labels : List String)
    (hp : Fulfils D start p) : Fulfils D start (p.absent message labels) := by
  intro c s hc hs
  exact .handle (hp c s hc hs) (.refl c)
    (fun v d s' _ _ hs' => .fail (.refl c) (hD.made _ _ _) hs')
    (fun f s' _ _ hs' => .succeed (.refl c) hs')

theorem bind {next : Value → Matcher σ} (hp : Fulfils D start p)
    (hnext : ∀ v, Fulfils D start (next v)) : Fulfils D start (p.bind next) := by
  intro c s hc hs
  refine .handle (hp c s hc hs) (.refl c) (fun v d s' _ hd hs' => ?_)
    (fun f s' hplace hf hs' => .fail hplace hf hs')
  exact .mono hd (hnext v d s' (hc.trans hd) hs')

theorem attempt {onSuccess : Value → Cursor → Matcher σ} {onFailure : Failure → Matcher σ}
    (hp : Fulfils D start p) (hsuccess : ∀ v d, Fulfils D start (onSuccess v d))
    (hfailure : ∀ f, Fulfils D start (onFailure f)) :
    Fulfils D start (p.attempt onSuccess onFailure) := by
  intro c s hc hs
  exact .handle (hp c s hc hs) (.refl c) (fun v d s' _ _ hs' => hsuccess v d c s' hc hs')
    (fun f s' _ _ hs' => hfailure f c s' hc hs')

theorem choice (hD : D.Lenient) (committed : Bool) (hp : Fulfils D start p)
    (hq : Fulfils D start q) : Fulfils D start (.choice committed p q) := by
  intro c s hc hs
  refine .handle (hp c s hc hs) (.refl c) (fun v d s' _ hd hs' => ?_)
    (fun f s' hplace hf hs' => ?_)
  · refine .cond (fun _ => ?_) (fun _ => .succeed hd hs')
    exact .handle (hq c s' hc hs') (.refl c) (fun w d' s' _ hd' hs' => .succeed hd' hs')
      (fun g s' _ _ hs' => .succeed hd hs')
  · refine .cond (fun _ => .fail hplace hf hs') (fun _ => ?_)
    refine .handle (hq c s' hc hs') (.refl c) (fun w d' s' _ hd' hs' => .succeed hd' hs') ?_
    exact fun g s' hplace' hg hs' => .fail (hplace.furthest hplace') (hD.pooled f g hf hg) hs'

theorem sequence {onSuccess : Value → Value → Cursor → σ → Option (Reply × σ)}
    {onFailure : Failure → σ → Option (Reply × σ)} (hp : Fulfils D start p)
    (hq : Fulfils D start q) (he : D.Behind start e) (hce : D.Behind c e) (hs : D.state s)
    (hsuccess : ∀ v w d s', D.Behind e d → D.state s' → D.Met c (onSuccess v w d s'))
    (hfailure : ∀ f s', D.Behind e f.remainder → D.failure f → D.state s' →
      D.Met c (onFailure f s')) :
    D.Met c (Matcher.sequence p q e s onSuccess onFailure) := by
  refine .handle (hp e s he hs) hce (fun v d s' _ hd hs' => ?_) hfailure
  exact .handle (hq d s' (he.trans hd) hs') (hce.trans hd)
    (fun w d' s' _ hd' hs' => hsuccess v w d' s' (hd.trans hd') hs')
    (fun f s' hplace hf hs' => hfailure f s' (hd.trans hplace) hf hs')

theorem and (hp : Fulfils D start p) (hq : Fulfils D start q) : Fulfils D start (p.and q) := by
  intro c s hc hs
  exact sequence hp hq hc (.refl c) hs (fun v w d s' hd hs' => .succeed hd hs')
    (fun f s' hplace hf hs' => .fail hplace hf hs')

/-! Loops are followed by induction on their fuel, which stays above what is left to read
where runs have to come back. -/

theorem not_total_of_no_fuel {n : Nat} (h : D.total → n < 0) : ¬ D.total :=
  fun ht => Nat.not_lt_zero n (h ht)

theorem fuel_left {n : Nat} {d : Cursor} (hfuel : D.total → e.rest.length < n + 1)
    (hd : D.Behind e d) (hspot : ¬ d.sameSpot e = true) : D.total → d.rest.length < n := by
  intro ht
  have hless := (hd ht).rest_lt hspot
  have hall := hfuel ht
  omega

theorem gather (committed : Bool) (hp : Fulfils D start p) (fuel : Nat) (found : List Value)
    (he : D.Behind start e) (hs : D.state s) (hfuel : D.total → e.rest.length < fuel) :
    D.Met e (Matcher.gather committed p fuel found e s) := by
  induction fuel generalizing e s found with
  | zero => exact not_total_of_no_fuel hfuel
  | succ fuel ih =>
    refine .handle (hp e s he hs) (.refl e) (fun v d s' _ hd hs' => ?_)
      (fun f s' hplace hf hs' => ?_)
    · refine .cond (fun _ => .succeed (.refl e) hs') (fun hspot => ?_)
      exact .mono hd (ih (v :: found) (he.trans hd) hs' (fuel_left hfuel hd hspot))
    · exact .cond (fun _ => .fail hplace hf hs') (fun _ => .succeed (.refl e) hs')

theorem many (committed : Bool) (hp : Fulfils D start p) : Fulfils D start (p.many committed) :=
  fun _ _ hc hs => hp.gather committed _ [] hc hs fun _ => Nat.lt_succ_self _

theorem trail (first : Cursor) (hq : Fulfils D start q) (fuel : Nat) (he : D.Behind start e)
    (hs : D.state s) (hfuel : D.total → e.rest.length < fuel) :
    D.Met e (Matcher.trail q first fuel e s) := by
  induction fuel generalizing e s with
  | zero => exact not_total_of_no_fuel hfuel
  | succ fuel ih =>
    refine .handle (hq e s he hs) (.refl e) (fun v d s' _ hd hs' => ?_)
      (fun f s' _ _ hs' => .succeed (.refl e) hs')
    refine .cond (fun _ => .succeed (.refl e) hs') (fun hspot => ?_)
    exact .mono hd (ih (he.trans hd) hs' (fuel_left hfuel hd hspot))

theorem identifier (hp : Fulfils D start p) (hq : Fulfils D start q) :
    Fulfils D start (p.identifier q) := by
  intro c s hc hs
  refine .handle (hp c s hc hs) (.refl c) (fun v d s' _ hd hs' => ?_)
    (fun f s' hplace hf hs' => .fail hplace hf hs')
  exact .mono hd (hq.trail c _ (hc.trans hd) hs' fun _ => Nat.lt_succ_self _)

theorem chainLeft (committed : Bool) (combine : Value → Value → Value → Value)
    (hp : Fulfils D start p) (hq : Fulfils D start q) (fuel : Nat) (value : Value)
    (he : D.Behind start e) (hs : D.state s) (hfuel : D.total → e.rest.length < fuel) :
    D.Met e (Matcher.chainLeft committed combine p q fuel value e s) := by
  induction fuel generalizing e s value with
  | zero => exact not_total_of_no_fuel hfuel
  | succ fuel ih =>
    refine sequence hp hq he (.refl e) hs (fun tag right d s' hd hs' => ?_)
      (fun f s' hplace hf hs' => ?_)
    · refine .cond (fun _ => .succeed (.refl e) hs') (fun hspot => ?_)
      exact .mono hd (ih _ (he.trans hd) hs' (fuel_left hfuel hd hspot))
    · exact .cond (fun _ => .fail hplace hf hs') (fun _ => .succeed (.refl e) hs')

theorem chainRight (committed : Bool) (combine : Value → Value → Value → Value)
    (hp : Fulfils D start p) (hq : Fulfils D start q) (fuel : Nat)
    (waiting : List (Value × Value)) (value : Value) (he : D.Behind start e) (hs : D.state s)
    (hfuel : D.total → e.rest.length < fuel) :
    D.Met e (Matcher.chainRight committed combine p q fuel waiting value e s) := by
  induction fuel generalizing e s waiting value with
  | zero => exact not_total_of_no_fuel hfuel
  | succ fuel ih =>
    refine sequence hp hq he (.refl e) hs (fun tag right d s' hd hs' => ?_)
      (fun f s' hplace hf hs' => ?_)
    · refine .cond (fun _ => .succeed (.refl e) hs') (fun hspot => ?_)
      exact .mono hd (ih _ _ (he.trans hd) hs' (fuel_left hfuel hd hspot))
    · exact .cond (fun _ => .fail hplace hf hs') (fun _ => .succeed (.refl e) hs')

theorem chain (committed : Bool) (grouping : Grouping) (combine : Value → Value → Value → Value)
    (hp : Fulfils D start p) (hq : Fulfils D start q) :
    Fulfils D start (.chain committed grouping combine p q) := by
  intro c s hc hs
  refine .handle (hq c s hc hs) (.refl c) (fun v d s' _ hd hs' => ?_)
    (fun f s' hplace hf hs' => .fail hplace hf hs')
  have hfuel : D.total → d.rest.length < d.rest.length + 1 := fun _ => Nat.lt_succ_self _
  cases grouping with
  | left => exact .mono hd (hp.chainLeft committed combine hq _ v (hc.trans hd) hs' hfuel)
  | right => exact .mono hd (hp.chainRight committed combine hq _ [] v (hc.trans hd) hs' hfuel)

section Traced

variable [Traced σ]

theorem settle (hD : D.Lenient) (hnote : ∀ r s, D.state s → D.state (Traced.note r s))
    (least most : Option Nat) (found : List Value) (stop : Option Failure)
    (hce : D.Behind c e) (hs : D.state s) : D.Met c (Matcher.settle least most c found e stop s) :=
  .cond (fun _ => .fail (.refl c) (hD.made _ _ _) (hnote _ s hs)) (fun _ => .succeed hce hs)

/-- A counted repetition comes back: its fuel is the upper bound, or its part goes on
    only with less to read. -/
theorem times (hD : D.Lenient) (hnote : ∀ r s, D.state s → D.state (Traced.note r s))
    {bounded : Bool} (least most : Option Nat) (hp : Fulfils D start p)
    (hmoves : D.total → bounded = true ∨ Moves D.state start p) (fuel : Nat)
    (found : List Value) (he : D.Behind start e) (hce : D.Behind c e) (hs : D.state s)
    (hfuel : D.total → bounded = true ∨ e.rest.length < fuel) :
    D.Met c (Matcher.times bounded p (Matcher.settle least most c) fuel found e s) := by
  induction fuel generalizing e s found with
  | zero =>
    refine .cond (fun _ => settle hD hnote least most found none hce hs) (fun hbounded ht => ?_)
    rcases hfuel ht with hbounded' | hless
    · exact hbounded hbounded'
    · exact Nat.not_lt_zero _ hless
  | succ fuel ih =>
    refine .handle (hp e s he hs) hce (fun v d s' hrun hd hs' => ?_) (fun f s' _ _ hs' => ?_)
    · refine ih (v :: found) (he.trans hd) (hce.trans hd) hs' fun ht => ?_
      rcases hmoves ht with hbounded | hmoves
      · exact .inl hbounded
      · have hless := (hd ht).rest_lt (hmoves e s v d s' (he ht) hs hrun)
        exact (hfuel ht).imp id fun h => by omega
    · exact settle hD hnote least most found (some f) hce hs'

theorem repeated (hD : D.Lenient) (hnote : ∀ r s, D.state s → D.state (Traced.note r s))
    (least most : Option Nat) (hp : Fulfils D start p)
    (hmoves : D.total → most.isSome = true ∨ Moves D.state start p) :
    Fulfils D start (p.repeated least most) := by
  intro c s hc hs
  refine times hD hnote least most hp hmoves _ [] hc (.refl c) hs fun _ => ?_
  cases most with
  | none => exact .inr (Nat.lt_succ_self _)
  | some most => exact .inl rfl

theorem counted (htally : ∀ label s, D.state s → D.state (Traced.tally label s))
    (label : String) (hp : Fulfils D start p) : Fulfils D start (p.counted label) :=
  fun c s hc hs => hp c (Traced.tally label s) hc (htally label s hs)

end Traced

end Fulfils

end Matcher

/-! ### Every parser -/

namespace Parser

/-- Each repetition in the parser has an upper bound, or is one of a parser that is
    `ok`. -/
def Steady (ok : Parser → Prop) : Parser → Prop
  | .scan _ | .inspect _ | .rule _ => True
  | .map _ p | .filter p _ _ | .text p | .positioned p | .named p _ | .many _ p
  | .optional _ p | .preview p | .absent p _ _ | .counted _ p => p.Steady ok
  | .and p q | .choice _ p q | .identifier p q | .chain _ _ _ p q => p.Steady ok ∧ q.Steady ok
  | .bind p _ next => p.Steady ok ∧ ∀ v, (next v).Steady ok
  | .attempt p _ onSuccess onFailure =>
    p.Steady ok ∧ (∀ v d, (onSuccess v d).Steady ok) ∧ ∀ f, (onFailure f).Steady ok
  | .repeated p _ most => (most.isSome = true ∨ ok p) ∧ p.Steady ok

/-- **A parser does what is demanded if its rules do.**  Where it has to come back, it must
    be steady. -/
theorem fulfils_matcher {σ : Type} [Traced σ] {call : Handle → Matcher σ} {D : Demand σ}
    {start : Cursor} {ok : Parser → Prop} (hD : D.Lenient)
    (hnote : ∀ r s, D.state s → D.state (Traced.note r s))
    (htally : ∀ label s, D.state s → D.state (Traced.tally label s))
    (hcall : ∀ h, Matcher.Fulfils D start (call h))
    (hok : ∀ q, ok q → Matcher.Moves D.state start (q.matcher call)) {p : Parser}
    (hp : D.total → p.Steady ok) : Matcher.Fulfils D start (p.matcher call) := by
  induction p with
  | scan read => exact .inspect hD _
  | inspect read => exact .inspect hD read
  | map f p ih => exact (ih hp).yielding fun _ v _ => f v
  | and p q ihp ihq => exact (ihp fun ht => (hp ht).1).and (ihq fun ht => (hp ht).2)
  | bind p held next ihp ihnext =>
    exact (ihp fun ht => (hp ht).1).bind fun v => ihnext v fun ht => (hp ht).2 v
  | attempt p held onSuccess onFailure ihp ihsuccess ihfailure =>
    exact (ihp fun ht => (hp ht).1).attempt (fun v d => ihsuccess v d fun ht => (hp ht).2.1 v d)
      fun f => ihfailure f fun ht => (hp ht).2.2 f
  | filter p keep message ih => exact (ih hp).filter hD keep message
  | text p ih => exact (ih hp).yielding fun c _ d => .str (String.ofList (c.sliceTo d))
  | positioned p ih => exact (ih hp).yielding fun c v d => .span v ⟨c.position, d.position⟩
  | named p label ih => exact (ih hp).named hD label
  | choice committed p q ihp ihq =>
    exact (ihp fun ht => (hp ht).1).choice hD committed (ihq fun ht => (hp ht).2)
  | many committed p ih => exact (ih hp).many committed
  | repeated p least most ih =>
    exact (ih fun ht => (hp ht).2).repeated hD hnote least most fun ht => (hp ht).1.imp id (hok p)
  | optional committed p ih => exact (ih hp).optional committed
  | preview p ih => exact (ih hp).preview
  | absent p message labels ih => exact (ih hp).absent hD message labels
  | identifier first tail ihfirst ihtail =>
    exact (ihfirst fun ht => (hp ht).1).identifier (ihtail fun ht => (hp ht).2)
  | chain committed grouping combine operator operand ihoperator ihoperand =>
    exact (ihoperator fun ht => (hp ht).1).chain committed grouping combine
      (ihoperand fun ht => (hp ht).2)
  | counted label p ih => exact (ih hp).counted htally label
  | rule h => exact hcall h

end Parser

end Descent
