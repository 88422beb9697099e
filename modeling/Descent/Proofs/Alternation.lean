/-
  Descent/Proofs/Alternation.lean
  ===============================
  **How alternatives are grouped** — it makes no difference to a free alternation, and
  next to none to a committed one.

  Both do the same with the replies of two branches: unless the first reply decides,
  the second branch is run, and the two replies are put together (`Matcher.choice_eq`).
  Putting replies together is associative whatever they are (`Reply.otherwise_assoc`): the
  furthest of three failures and its pooled expectations are found either way.  Free
  alternation inherits the law, because there a reply that decides still decides behind
  others.  So alternatives in any grouping do what they do one after the other, and their
  outcome is read off the list of branches (`World.alternatives_settled`).

  A committed alternation decides by failures, too, and there the law has one gap: what
  the second branch consumed before it failed is forgotten where the first one has
  succeeded without consuming (`Parser.xor_regrouped`).
-/
import Descent.Proofs.Fixed

namespace Descent

/-! ### Pooled expectations -/

theorem eraseDups_of_nodup {labels : List String} (h : labels.Nodup) :
    labels.eraseDups = labels := by
  induction labels with
  | nil => rfl
  | cons label rest ih =>
    obtain ⟨hlabel, hrest⟩ := List.nodup_cons.mp h
    have hfilter : rest.filter (fun other => !other == label) = rest := by
      rw [List.filter_eq_self]
      intro other hother
      have hne : other ≠ label := fun heq => hlabel (heq ▸ hother)
      simp [hne]
    rw [List.eraseDups_cons, hfilter, ih hrest]

/-- Adding labels is what is left of both lists without repetitions. -/
theorem addLabels_eq_eraseDups {known : List String} (hknown : known.Nodup)
    (fresh : List String) : addLabels known fresh = (known ++ fresh).eraseDups := by
  induction fresh generalizing known with
  | nil => rw [List.append_nil, eraseDups_of_nodup hknown, addLabels, List.foldl_nil]
  | cons label rest ih =>
    rw [addLabels_cons]
    by_cases hmem : label ∈ known
    · rw [if_pos hmem, ih hknown, List.eraseDups_append, List.eraseDups_append]
      simp [List.removeAll, hmem]
    · have hmore : (known ++ [label]).Nodup := by
        simpa [addLabels, hmem] using nodup_addLabels hknown [label]
      rw [if_neg hmem, ih hmore, List.append_assoc, List.singleton_append]

theorem mem_addLabels {label : String} {known fresh : List String} :
    label ∈ addLabels known fresh ↔ label ∈ known ∨ label ∈ fresh := by
  induction fresh generalizing known with
  | nil => simp [addLabels]
  | cons other rest ih =>
    rw [addLabels_cons, ih, List.mem_cons]
    by_cases hmem : other ∈ known
    · rw [if_pos hmem]
      constructor
      · exact Or.imp_right .inr
      · rintro (h | rfl | h)
        exacts [.inl h, .inl hmem, .inr h]
    · rw [if_neg hmem, List.mem_append, List.mem_singleton, or_assoc]

theorem addLabels_assoc (first second third : List String) :
    addLabels first (addLabels second third) = addLabels (addLabels first second) third := by
  induction third generalizing second with
  | nil => rfl
  | cons label rest ih =>
    rw [addLabels_cons, addLabels_cons, ih]
    by_cases hsecond : label ∈ second
    · rw [if_pos hsecond, if_pos (mem_addLabels.mpr (.inr hsecond))]
    · -- A label that `second` does not have is added if `first` does not have it either.
      rw [if_neg hsecond, addLabels_append]
      rfl

/-- Repetitions among the labels that are added make no difference. -/
theorem addLabels_eraseDups {known : List String} (hknown : known.Nodup) (fresh : List String) :
    addLabels known fresh.eraseDups = (known ++ fresh).eraseDups := by
  have hfresh : fresh.eraseDups = addLabels [] fresh := (addLabels_eq_eraseDups .nil fresh).symm
  rw [hfresh, addLabels_assoc]
  exact addLabels_eq_eraseDups hknown fresh

namespace Failure

variable {f g h : Failure}

/-- The failure with all that failures of a list expected at its place, each label once. -/
def pooling (f : Failure) (all : List Failure) : Failure :=
  { f with
    expectations :=
      ((all.filter fun g => g.remainder.offset = f.remainder.offset).flatMap
        (·.expectations)).eraseDups }

theorem furthest_of_lt (hlt : f.remainder.offset < g.remainder.offset) : f.furthest g = g := by
  rw [furthest, Nat.compare_eq_gt.mpr hlt]

theorem furthest_of_gt (hlt : g.remainder.offset < f.remainder.offset) : f.furthest g = f := by
  rw [furthest, Nat.compare_eq_lt.mpr hlt]

theorem furthest_of_eq (heq : f.remainder.offset = g.remainder.offset) :
    f.furthest g = { f with expectations := addLabels f.expectations g.expectations } := by
  rw [furthest, Nat.compare_eq_eq.mpr heq.symm]

/-- **Which of three failures got furthest** does not depend on which two are compared
    first. -/
theorem furthest_assoc (f g h : Failure) :
    (f.furthest g).furthest h = f.furthest (g.furthest h) := by
  rcases Nat.lt_trichotomy f.remainder.offset g.remainder.offset with hfg | hfg | hfg <;>
    rcases Nat.lt_trichotomy g.remainder.offset h.remainder.offset with hgh | hgh | hgh
  · rw [furthest_of_lt hfg, furthest_of_lt hgh, furthest_of_lt (hfg.trans hgh)]
  · rw [furthest_of_lt hfg, furthest_of_eq hgh, furthest_of_lt (by exact hfg)]
  · rw [furthest_of_lt hfg, furthest_of_gt hgh, furthest_of_lt hfg]
  · rw [furthest_of_eq hfg, furthest_of_lt hgh, furthest_of_lt (hfg.trans_lt hgh),
      furthest_of_lt (by exact hfg.trans_lt hgh)]
  · -- All three stopped at one place.
    rw [furthest_of_eq hfg, furthest_of_eq hgh, furthest_of_eq (by exact hfg.trans hgh),
      furthest_of_eq (by exact hfg), addLabels_assoc]
  · rw [furthest_of_eq hfg, furthest_of_gt hgh, furthest_of_eq hfg,
      furthest_of_gt (by exact hgh.trans_eq hfg.symm)]
  · rw [furthest_of_gt hfg, furthest_of_lt hgh]
  · rw [furthest_of_gt hfg, furthest_of_eq hgh, furthest_of_gt (hgh ▸ hfg),
      furthest_of_gt (by exact hfg)]
  · rw [furthest_of_gt hfg, furthest_of_gt hgh, furthest_of_gt hfg, furthest_of_gt (hgh.trans hfg)]

end Failure

/-! ### Two replies -/

namespace Reply

variable {committed : Bool} {c : Cursor} {x y z : Reply}

/-- Whether an alternation looks no further if its first branch has this reply at the
    cursor: a success that consumed something, a defect, and in a committed one also a
    failure behind consumed text. -/
def decides (committed : Bool) (c : Cursor) : Reply → Bool
  | .success _ d => !d.sameSpot c
  | .failure f => committed && f.consumedFrom c
  | .defect _ => true

/-- What an alternation makes of the reply of its first branch, which did not decide, and
    of that of the second. -/
def otherwise : Reply → Reply → Reply
  | .success v d, .failure _ => .success v d
  | .failure f, .failure g => .failure (f.furthest g)
  | .defect e, _ => .defect e
  | _, y => y

theorem otherwise_assoc (x y z : Reply) :
    (x.otherwise y).otherwise z = x.otherwise (y.otherwise z) := by
  cases x with
  | defect e => rfl
  | success v d => cases y <;> cases z <;> rfl
  | failure f =>
    cases y with
    | success w e => cases z <;> rfl
    | defect e => rfl
    | failure g =>
      cases z with
      | failure h => exact congrArg Reply.failure (f.furthest_assoc g h)
      | success w e => rfl
      | defect e => rfl

/-- In a free alternation a reply that decides stands behind one that does not. -/
theorem otherwise_of_decides (hx : x.decides false c = false) (hy : y.decides false c = true) :
    x.otherwise y = y := by
  cases y with
  | failure g => cases hy
  | success w e | defect e =>
    cases x with
    | defect e => cases hx
    | success v d | failure f => rfl

theorem decides_otherwise (hx : x.decides false c = false) :
    (x.otherwise y).decides false c = y.decides false c := by
  cases y with
  | failure g =>
    cases x with
    | defect e => cases hx
    | success v d => exact hx
    | failure f => rfl
  | success w e | defect e =>
    cases x with
    | defect e => cases hx
    | success v d | failure f => rfl

end Reply

namespace Matcher

variable {σ : Type} {c : Cursor} {p q r : Matcher σ}

/-- **What an alternation does**: the second branch is run unless the first reply decides,
    and then the two are put together. -/
theorem choice_eq (committed : Bool) (p q : Matcher σ) (c : Cursor) (s : σ) :
    choice committed p q c s = (p c s).bind fun (x, s) =>
      if x.decides committed c then some (x, s)
      else (q c s).map fun (y, s) => (x.otherwise y, s) := by
  rcases hp : p c s with _ | ⟨⟨v, d⟩ | f | e, s'⟩
  · rw [choice, handle_of_none hp, Option.bind_none]
  · rw [choice, handle_of_success hp, Option.bind_some]
    by_cases hspot : d.sameSpot c = true
    · simp only [Reply.decides, hspot, Bool.not_true, Bool.false_eq_true, if_true, if_false]
      rcases hq : q c s' with _ | ⟨_ | _ | _, _⟩ <;> simp [handle, hq, succeed, Reply.otherwise]
    · simp [Reply.decides, hspot, succeed]
  · rw [choice, handle_of_failure hp, Option.bind_some]
    by_cases hstop : (committed && f.consumedFrom c) = true
    · simp [Reply.decides, hstop, fail]
    · simp only [Reply.decides, hstop, Bool.false_eq_true, if_false]
      rcases hq : q c s' with _ | ⟨_ | _ | _, _⟩ <;>
        simp [handle, hq, succeed, fail, Reply.otherwise]
  · rw [choice, handle_of_defect hp, Option.bind_some]
    rfl

theorem choice_of_decides {committed : Bool} {s s' : σ} {x : Reply} (hp : p c s = some (x, s'))
    (hx : x.decides committed c = true) : choice committed p q c s = some (x, s') := by
  rw [choice_eq, hp]
  exact if_pos hx

theorem choice_of_not_decides {committed : Bool} {s s₁ s₂ : σ} {x y : Reply}
    (hp : p c s = some (x, s₁)) (hx : x.decides committed c = false)
    (hq : q c s₁ = some (y, s₂)) : choice committed p q c s = some (x.otherwise y, s₂) := by
  rw [choice_eq, hp]
  simp [hx, hq]

/-- **Free alternation is associative.** -/
theorem choice_assoc (p q r : Matcher σ) :
    choice false (choice false p q) r = choice false p (choice false q r) := by
  funext c s
  simp only [choice_eq]
  rcases p c s with _ | ⟨x, s₁⟩
  · rfl
  simp only [Option.bind_some]
  by_cases hx : x.decides false c = true
  · simp only [hx, if_true, Option.bind_some]
  rw [Bool.not_eq_true] at hx
  rcases q c s₁ with _ | ⟨y, s₂⟩
  · simp [hx]
  simp only [hx, Bool.false_eq_true, if_false, Option.map_some, Option.bind_some,
    Reply.decides_otherwise hx]
  by_cases hy : y.decides false c = true
  · simp only [hy, if_true, Option.map_some]
  · simp only [hy, Bool.false_eq_true, if_false, Option.map_map]
    congr 1
    funext ⟨z, s₃⟩
    simp only [Function.comp_apply, Reply.otherwise_assoc]

/-- The state behind runs of some matchers at the same cursor, one after the other. -/
def inTurn (c : Cursor) : List (Matcher σ) → σ → Option σ
  | [], s => some s
  | m :: ms, s => (m c s).bind fun (_, s) => inTurn c ms s

end Matcher

/-! ### The outcome of a list of branches -/

/-- A free alternation whose branches have these replies at the cursor, in order, tries
    that many of them and replies that. -/
inductive Reply.Settled (c : Cursor) : List Reply → (tried : Nat) → Reply → Prop
  /-- A branch succeeds behind consumed text or has a defect, and none before it does. -/
  | decided {before after : List Reply} {r : Reply}
      (hbefore : ∀ x ∈ before, x.decides false c = false) (hr : r.decides false c = true) :
      Settled c (before ++ r :: after) (before.length + 1) r
  | empty {before after : List Reply} {v : Value} {d : Cursor}
      (hnone : ∀ x ∈ before ++ .success v d :: after, x.decides false c = false)
      (hafter : ∀ x ∈ after, ∃ f, x = .failure f) :
      Settled c (before ++ .success v d :: after) (before ++ .success v d :: after).length
        (.success v d)
  /-- All fail, and this is the first one of those that got furthest. -/
  | failed {before after : List Failure} {f : Failure}
      (hbefore : ∀ g ∈ before, g.remainder.offset < f.remainder.offset)
      (hafter : ∀ g ∈ after, g.remainder.offset ≤ f.remainder.offset) :
      Settled c ((before ++ f :: after).map .failure) (before ++ f :: after).length
        (.failure (f.pooling (before ++ f :: after)))

namespace Reply.Settled

variable {c : Cursor} {x r : Reply} {xs : List Reply} {tried : Nat}

theorem single (hdistinct : x.Distinct) : Settled c [x] 1 x := by
  by_cases hx : x.decides false c = true
  · exact .decided (List.forall_mem_nil _) hx
  rw [Bool.not_eq_true] at hx
  cases x with
  | success v d =>
    have hsettled : Settled c ([] ++ .success v d :: []) 1 (.success v d) :=
      .empty (by simpa using hx) (List.forall_mem_nil _)
    exact hsettled
  | failure f =>
    have hsettled : Settled c [.failure f] 1 (.failure (f.pooling [f])) :=
      .failed (List.forall_mem_nil _) (List.forall_mem_nil _)
    simpa [Failure.pooling, eraseDups_of_nodup hdistinct] using hsettled
  | defect e => cases hx

/-- One more failure in front of failures. -/
theorem cons_failed {g f : Failure} {before after : List Failure} (hg : g.expectations.Nodup)
    (hbefore : ∀ h ∈ before, h.remainder.offset < f.remainder.offset)
    (hafter : ∀ h ∈ after, h.remainder.offset ≤ f.remainder.offset) :
    Settled c ((g :: (before ++ f :: after)).map .failure) ((before ++ f :: after).length + 1)
      (.failure (g.furthest (f.pooling (before ++ f :: after)))) := by
  have hall : ∀ h ∈ before ++ f :: after, h.remainder.offset ≤ f.remainder.offset := by
    intro h hmem
    rcases List.mem_append.mp hmem with hmem | hmem
    · exact (hbefore h hmem).le
    · rcases List.mem_cons.mp hmem with rfl | hmem
      exacts [le_rfl, hafter h hmem]
  rcases Nat.lt_trichotomy g.remainder.offset f.remainder.offset with hlt | heq | hgt
  · have hsettled : Settled c ((g :: before ++ f :: after).map .failure) _ _ :=
      .failed (List.forall_mem_cons.mpr ⟨hlt, hbefore⟩) hafter
    have hpool : f.pooling (g :: before ++ f :: after) = f.pooling (before ++ f :: after) := by
      simp [Failure.pooling, hlt.ne]
    rw [Failure.furthest_of_lt (by exact hlt), ← hpool]
    exact hsettled
  · have hsettled : Settled c ((g :: (before ++ f :: after)).map .failure) _ _ :=
      .failed (List.forall_mem_nil _) (heq ▸ hall)
    have hpool : g.furthest (f.pooling (before ++ f :: after)) =
        g.pooling (g :: (before ++ f :: after)) := by
      rw [Failure.furthest_of_eq (by exact heq), Failure.pooling, addLabels_eraseDups hg,
        Failure.pooling, List.filter_cons_of_pos (by simp), List.flatMap_cons, heq]
    rw [hpool]
    exact hsettled
  · have hsettled : Settled c ((g :: (before ++ f :: after)).map .failure) _
        (.failure (g.pooling (g :: (before ++ f :: after)))) :=
      .failed (List.forall_mem_nil _) fun h hmem => (hall h hmem).trans hgt.le
    -- None of the others got as far as this one.
    have hnone : (before ++ f :: after).filter
        (fun h => h.remainder.offset = g.remainder.offset) = [] := by
      rw [List.filter_eq_nil_iff]
      intro h hmem
      simp [((hall h hmem).trans_lt hgt).ne]
    have hpool : g.pooling (g :: (before ++ f :: after)) = g := by
      rw [Failure.pooling, List.filter_cons_of_pos (by simp), hnone, List.flatMap_singleton,
        eraseDups_of_nodup hg]
    rw [hpool] at hsettled
    rw [Failure.furthest_of_gt (by exact hgt)]
    exact hsettled

/-- One more branch in front of others, which does not decide. -/
theorem cons (hdistinct : x.Distinct) (hx : x.decides false c = false)
    (hxs : Settled c xs tried r) : Settled c (x :: xs) (tried + 1) (x.otherwise r) := by
  cases hxs with
  | decided hbefore hr =>
    rw [otherwise_of_decides hx hr]
    exact .decided (List.forall_mem_cons.mpr ⟨hx, hbefore⟩) hr
  | @empty before after v d hnone hafter =>
    have hotherwise : x.otherwise (.success v d) = .success v d := by
      cases x with
      | defect e => cases hx
      | success w e | failure f => rfl
    rw [hotherwise]
    have hsettled : Settled c (x :: before ++ .success v d :: after) _ (.success v d) :=
      .empty (List.forall_mem_cons.mpr ⟨hx, hnone⟩) hafter
    exact hsettled
  | @failed before after f hbefore hafter =>
    cases x with
    | defect e => cases hx
    | failure g => exact cons_failed hdistinct hbefore hafter
    | success v d =>
      have hfailures : ∀ y ∈ (before ++ f :: after).map Reply.failure, ∃ g, y = .failure g := by
        intro y hy
        obtain ⟨g, _, rfl⟩ := List.mem_map.mp hy
        exact ⟨g, rfl⟩
      have hnone : ∀ y ∈ (before ++ f :: after).map Reply.failure, y.decides false c = false := by
        intro y hy
        obtain ⟨g, rfl⟩ := hfailures y hy
        rfl
      have hempty : Settled c ([] ++ .success v d :: (before ++ f :: after).map .failure) _
          (.success v d) := .empty (List.forall_mem_cons.mpr ⟨hx, hnone⟩) hfailures
      rw [List.nil_append, List.length_cons, List.length_map] at hempty
      exact hempty

end Reply.Settled

/-! ### Groupings -/

inductive Alternatives where
  | one (p : Parser)
  | either (first second : Alternatives)

namespace Alternatives

def parser : Alternatives → Parser
  | .one p => p
  | .either first second => first.parser.or second.parser

def leaves : Alternatives → List Parser
  | .one p => [p]
  | .either first second => first.leaves ++ second.leaves

theorem exists_leaves (t : Alternatives) : ∃ p ps, t.leaves = p :: ps := by
  induction t with
  | one p => exact ⟨p, [], rfl⟩
  | either first second ih _ =>
    obtain ⟨p, ps, hleaves⟩ := ih
    exact ⟨p, ps ++ second.leaves, by rw [leaves, hleaves, List.cons_append]⟩

end Alternatives

def Parser.orElse (p : Parser) : List Parser → Parser
  | [] => p
  | q :: qs => p.or (q.orElse qs)

section Grouping

variable {σ : Type} [Traced σ] {call : Handle → Matcher σ}

theorem Parser.matcher_orElse_append (p : Parser) (ps : List Parser) (q : Parser)
    (qs : List Parser) :
    (p.orElse (ps ++ q :: qs)).matcher call =
      .choice false ((p.orElse ps).matcher call) ((q.orElse qs).matcher call) := by
  induction ps generalizing p with
  | nil => rfl
  | cons p' ps ih =>
    have hstep : (p.orElse (p' :: ps ++ q :: qs)).matcher call =
        .choice false (p.matcher call) ((p'.orElse (ps ++ q :: qs)).matcher call) := rfl
    rw [hstep, ih]
    exact (Matcher.choice_assoc _ _ _).symm

/-- **A grouping does what its branches do one after the other.** -/
theorem Alternatives.matcher_parser {t : Alternatives} {p : Parser} {ps : List Parser}
    (hleaves : t.leaves = p :: ps) : t.parser.matcher call = (p.orElse ps).matcher call := by
  induction t generalizing p ps with
  | one q =>
    cases hleaves
    rfl
  | either first second ihfirst ihsecond =>
    obtain ⟨p₁, ps₁, hfirst⟩ := first.exists_leaves
    obtain ⟨p₂, ps₂, hsecond⟩ := second.exists_leaves
    rw [leaves, hfirst, hsecond, List.cons_append] at hleaves
    obtain ⟨rfl, rfl⟩ := List.cons.inj hleaves
    rw [Parser.matcher_orElse_append, ← ihfirst hfirst, ← ihsecond hsecond]
    rfl

end Grouping

namespace World

variable {S : World → Prop} {n : Nat} {c : Cursor} {w : World}

theorem orElse_settled (hguard : ∀ w, S w → w.guard.Distinct) {p : Parser} {ps : List Parser}
    {replies : List Reply}
    (hfixed : List.Forall₂ (fun p r => Matcher.Fixed S (p.matcher (call n)) c r) (p :: ps) replies)
    (hw : S w) :
    ∃ tried r w', Reply.Settled c replies tried r ∧ S w' ∧
      (p.orElse ps).matcher (call n) c w = some (r, w') ∧
      Matcher.inTurn c (((p :: ps).take tried).map (·.matcher (call n))) w = some w' := by
  induction ps generalizing p replies w with
  | nil =>
    obtain ⟨x, _, hx, hnil, rfl⟩ := List.forall₂_cons_left_iff.mp hfixed
    cases hnil
    obtain ⟨w', hw', hrun⟩ := hx w hw
    have hdistinct := (distinct_matcher (hguard w hw) hrun).2
    refine ⟨1, x, w', .single hdistinct, hw', hrun, ?_⟩
    simp [Matcher.inTurn, hrun]
  | cons q qs ih =>
    obtain ⟨x, xs, hx, hxs, rfl⟩ := List.forall₂_cons_left_iff.mp hfixed
    obtain ⟨w₁, hw₁, hrun⟩ := hx w hw
    have hdistinct := (distinct_matcher (hguard w hw) hrun).2
    by_cases hdecides : x.decides false c = true
    · refine ⟨1, x, w₁, .decided (List.forall_mem_nil _) hdecides, hw₁,
        Matcher.choice_of_decides hrun hdecides, ?_⟩
      simp [Matcher.inTurn, hrun]
    · rw [Bool.not_eq_true] at hdecides
      obtain ⟨tried, r, w', hsettled, hw', hrest, hturn⟩ := ih hxs hw₁
      refine ⟨tried + 1, x.otherwise r, w', hsettled.cons hdistinct hdecides, hw',
        Matcher.choice_of_not_decides hrun hdecides hrest, ?_⟩
      rw [List.take_succ_cons, List.map_cons, Matcher.inTurn, hrun, Option.bind_some]
      exact hturn

/-- **The outcome of a free alternation, for any grouping.**  In a set of worlds that runs
    of the branches do not lead out of, each branch has a fixed reply at the cursor.  Then
    the alternation has the reply of the first branch that succeeds behind consumed text
    or has a defect, and runs no branch behind it.  If there is none, it runs all branches
    and has the reply of the last one that succeeds.  If there is none either, it fails
    like the first of those that got furthest, with all that these expected, each once.
    A different grouping of the same branches does the same. -/
theorem alternatives_settled (t : Alternatives) {replies : List Reply}
    (hguard : ∀ w, S w → w.guard.Distinct)
    (hfixed : List.Forall₂ (fun p r => Matcher.Fixed S (p.matcher (call n)) c r) t.leaves replies) :
    (∀ w, S w → ∃ tried r w', Reply.Settled c replies tried r ∧ S w' ∧
      t.parser.matcher (call n) c w = some (r, w') ∧
      Matcher.inTurn c ((t.leaves.take tried).map (·.matcher (call n))) w = some w') ∧
    ∀ t' : Alternatives, t'.leaves = t.leaves →
      t'.parser.matcher (call n) = t.parser.matcher (call n) := by
  obtain ⟨p, ps, hleaves⟩ := t.exists_leaves
  constructor
  · intro w hw
    rw [hleaves, Alternatives.matcher_parser hleaves]
    exact orElse_settled hguard (hleaves ▸ hfixed) hw
  · intro t' ht'
    rw [Alternatives.matcher_parser hleaves, Alternatives.matcher_parser (ht'.trans hleaves)]

/-- A rule and a parser beside it fail behind one character, and a third parser fails in
    front of it.  The two failures behind the character are pooled. -/
theorem alternatives_settled_furthest :
    let digit : Parser := .failing 1 "no digit" ["digit"]
    let name : Parser := .rule ⟨⟨0, "name"⟩, true⟩
    let comma : Parser := .failing 0 "no comma" ["comma"]
    let start : Cursor := .start ['a', 'b']
    let w : World :=
      ⟨[.defined (.failing 1 "no name" ["letter", "digit"])], .empty, .empty, [], []⟩
    let n := w.depthLimit start
    (∃ tried w', Reply.Settled start
        [.failure (.of start "no comma" ["comma"]),
          .failure (.of (start.skip 1) "no digit" ["digit"]),
          .failure (.of (start.skip 1) "no name" ["letter", "digit"])] tried
        (.failure ⟨start.skip 1, "no digit", ["digit", "letter"]⟩) ∧
      ((comma.or digit).or name).matcher (call n) start w =
        some (.failure ⟨start.skip 1, "no digit", ["digit", "letter"]⟩, w') ∧
      Matcher.inTurn start (([comma, digit, name].take tried).map (·.matcher (call n))) w =
        some w') ∧
      (comma.or (digit.or name)).matcher (call n) =
        ((comma.or digit).or name).matcher (call n) := by
  intro digit name comma start w n
  have hdeferred : ∀ rule, (w.book.slot rule).factory = none := by
    rintro ⟨_ | index, name⟩ <;> rfl
  have hready : w.ReadyFor ['a', 'b'] := .of_no_entries rfl
  have hreply : ∀ (p : Parser) r w', p.matcher (call n) start w = some (r, w') →
      Matcher.Fixed (Rested ['a', 'b'] w) (p.matcher (call n)) start r := fun p r w' hrun =>
    fixed_of_reply hdeferred (.start _) (.refl start) hready hrun
  let t : Alternatives := .either (.either (.one comma) (.one digit)) (.one name)
  obtain ⟨hsettled, hgrouping⟩ := alternatives_settled (n := n) (c := start) t
    (fun u hu => hu.recorded.distinct)
    (.cons (hreply comma _ _ rfl) (.cons (hreply digit _ _ rfl) (.cons (hreply name _ _ rfl) .nil)))
  have hrested : Rested ['a', 'b'] w w := ⟨⟨rfl, rfl⟩, hready, .fresh rfl⟩
  obtain ⟨tried, r, w', hsettled, _, hrun, hturn⟩ := hsettled w hrested
  have hrun' : t.parser.matcher (call n) start w =
      some (.failure ⟨start.skip 1, "no digit", ["digit", "letter"]⟩, _) := rfl
  rw [hrun] at hrun'
  obtain ⟨rfl, _⟩ := Prod.mk.inj (Option.some.inj hrun')
  exact ⟨⟨tried, w', hsettled, hrun, hturn⟩,
    hgrouping (.either (.one comma) (.either (.one digit) (.one name))) rfl⟩

end World

/-! ### Committed alternation -/

namespace Reply

variable {c : Cursor} {x y : Reply}

def NotBefore (c : Cursor) (r : Reply) : Prop :=
  r.place.sameSpot c = true ∨ c.offset < r.place.offset

/-- The first reply is a success that consumed nothing, and the second one a failure
    behind consumed text. -/
def Superseded (c : Cursor) (x y : Reply) : Prop :=
  (∃ v d, x = .success v d ∧ d.sameSpot c = true) ∧ ∃ f, y = .failure f ∧ f.consumedFrom c = true

theorem decides_otherwise_of_neither (hx : x.decides true c = false)
    (hy : y.decides true c = false) :
    (x.otherwise y).decides true c = false := by
  cases x with
  | defect e => cases hx
  | success v d =>
    cases y with
    | defect e => cases hy
    | success w e => exact hy
    | failure g => exact hx
  | failure f =>
    cases y with
    | defect e => cases hy
    | success w e => exact hy
    | failure g =>
      -- Whichever got further, neither left the cursor.
      rw [otherwise, Failure.furthest]
      split
      · exact hy
      · exact hx
      · exact hx

/-- A reply that decides still does so behind one that does not, but for a failure behind a
    success. -/
theorem decides_otherwise_of_second (hx : x.decides true c = false) (hy : y.decides true c = true)
    (hbefore : y.NotBefore c) (hkept : ¬ Superseded c x y) :
    (x.otherwise y).decides true c = true := by
  cases x with
  | defect e => cases hx
  | success v d =>
    cases y with
    | defect e => rfl
    | success w e => exact hy
    | failure g =>
      have hspot : d.sameSpot c = true := by simpa [decides] using hx
      exact absurd ⟨⟨v, d, rfl, hspot⟩, g, rfl, hy⟩ hkept
  | failure f =>
    cases y with
    | defect e => rfl
    | success w e => exact hy
    | failure g =>
      have hf : f.remainder.position = c.position := by
        simpa [decides, Failure.consumedFrom, Cursor.sameSpot] using hx
      have hg : ¬ g.remainder.sameSpot c = true := by
        simpa [decides, Failure.consumedFrom] using hy
      have hfurther : f.remainder.offset < g.remainder.offset := by
        rw [Cursor.offset, hf]
        exact hbefore.resolve_left hg
      rw [otherwise, Failure.furthest_of_lt hfurther]
      exact hy

end Reply

/-- **The grouping of a committed alternation.**  Three parsers have fixed replies at the
    cursor, and that of the second one does not lie before it.  Then both groupings have
    the same fixed reply and lead to the same states, unless the first parser succeeds
    without consuming and the second one fails behind consumed text.  There the first
    grouping forgets what the second parser consumed and goes on to the third one, and the
    other grouping commits to it and falls back to the success. -/
theorem Parser.xor_regrouped {σ : Type} [Traced σ] {call : Handle → Matcher σ} {S : σ → Prop}
    {c : Cursor} {p q r : Parser} {x y z : Reply} (hp : (p.matcher call).Fixed S c x)
    (hq : (q.matcher call).Fixed S c y) (hr : (r.matcher call).Fixed S c z)
    (hbefore : y.NotBefore c) :
    (¬ Reply.Superseded c x y → ∃ outcome, ∀ s, S s → ∃ s', S s' ∧
      ((p.xor q).xor r).matcher call c s = some (outcome, s') ∧
      (p.xor (q.xor r)).matcher call c s = some (outcome, s')) ∧
    (Reply.Superseded c x y →
      (((p.xor q).xor r).matcher call).Fixed S c (x.otherwise z) ∧
      ((p.xor (q.xor r)).matcher call).Fixed S c x) := by
  constructor
  · intro hkept
    rcases hx : x.decides true c with _ | _
    · rcases hy : y.decides true c with _ | _
      · refine ⟨(x.otherwise y).otherwise z, fun s hs => ?_⟩
        obtain ⟨s₁, hs₁, hrun₁⟩ := hp s hs
        obtain ⟨s₂, hs₂, hrun₂⟩ := hq s₁ hs₁
        obtain ⟨s₃, hs₃, hrun₃⟩ := hr s₂ hs₂
        refine ⟨s₃, hs₃, ?_, ?_⟩
        · have hpq := Matcher.choice_of_not_decides hrun₁ hx hrun₂
          exact Matcher.choice_of_not_decides hpq (Reply.decides_otherwise_of_neither hx hy) hrun₃
        · rw [Reply.otherwise_assoc]
          have hqr := Matcher.choice_of_not_decides hrun₂ hy hrun₃
          exact Matcher.choice_of_not_decides hrun₁ hx hqr
      · refine ⟨x.otherwise y, fun s hs => ?_⟩
        obtain ⟨s₁, hs₁, hrun₁⟩ := hp s hs
        obtain ⟨s₂, hs₂, hrun₂⟩ := hq s₁ hs₁
        refine ⟨s₂, hs₂, ?_, ?_⟩
        · have hpq := Matcher.choice_of_not_decides hrun₁ hx hrun₂
          exact Matcher.choice_of_decides hpq
            (Reply.decides_otherwise_of_second hx hy hbefore hkept)
        · have hqr := Matcher.choice_of_decides (q := r.matcher call) hrun₂ hy
          exact Matcher.choice_of_not_decides hrun₁ hx hqr
    · refine ⟨x, fun s hs => ?_⟩
      obtain ⟨s₁, hs₁, hrun₁⟩ := hp s hs
      have hpq := Matcher.choice_of_decides (q := q.matcher call) hrun₁ hx
      exact ⟨s₁, hs₁, Matcher.choice_of_decides hpq hx, Matcher.choice_of_decides hrun₁ hx⟩
  · rintro ⟨⟨v, d, rfl, hspot⟩, g, rfl, hconsumed⟩
    have hx : (Reply.success v d).decides true c = false := by simp [Reply.decides, hspot]
    have hy : (Reply.failure g).decides true c = true := hconsumed
    constructor
    · intro s hs
      obtain ⟨s₁, hs₁, hrun₁⟩ := hp s hs
      obtain ⟨s₂, hs₂, hrun₂⟩ := hq s₁ hs₁
      obtain ⟨s₃, hs₃, hrun₃⟩ := hr s₂ hs₂
      have hpq := Matcher.choice_of_not_decides hrun₁ hx hrun₂
      exact ⟨s₃, hs₃, Matcher.choice_of_not_decides hpq hx hrun₃⟩
    · intro s hs
      obtain ⟨s₁, hs₁, hrun₁⟩ := hp s hs
      obtain ⟨s₂, hs₂, hrun₂⟩ := hq s₁ hs₁
      have hqr := Matcher.choice_of_decides (q := r.matcher call) hrun₂ hy
      exact ⟨s₂, hs₂, Matcher.choice_of_not_decides hrun₁ hx hqr⟩

/-- The first parser succeeds in front of `a`.  Where the second one fails there, too, both
    groupings go on to the third one; where it fails behind `a`, one of them does. -/
theorem Parser.xor_regrouped_empty_success :
    let here : Parser := .succeed .unit
    let b : Parser := .string "b"
    let ac : Parser := .and (.string "a") (.string "c")
    let any : Parser := .take 1
    let start : Cursor := .start ['a', 'b']
    let w : World := .empty
    (∃ w', ((here.xor b).xor any).matcher (World.call 0) start w =
        some (.success (.str "a") (start.skip 1), w') ∧
      (here.xor (b.xor any)).matcher (World.call 0) start w =
        some (.success (.str "a") (start.skip 1), w')) ∧
    (∃ w', ((here.xor ac).xor any).matcher (World.call 0) start w =
        some (.success (.str "a") (start.skip 1), w')) ∧
    ∃ w', (here.xor (ac.xor any)).matcher (World.call 0) start w =
        some (.success .unit start, w') := by
  intro here b ac any start w
  let S : World → Prop := fun _ => True
  have hhere : (here.matcher (World.call 0)).Fixed S start (.success .unit start) :=
    fun u _ => ⟨u, trivial, rfl⟩
  have hb : (b.matcher (World.call 0)).Fixed S start (.failure (.unexpected start "b")) :=
    fun u _ => ⟨u, trivial, rfl⟩
  have hac : (ac.matcher (World.call 0)).Fixed S start
      (.failure (.unexpected (start.skip 1) "c")) := fun u _ => ⟨u, trivial, rfl⟩
  have hany : (any.matcher (World.call 0)).Fixed S start (.success (.str "a") (start.skip 1)) :=
    fun u _ => ⟨u, trivial, rfl⟩
  have hkept :
      ¬ Reply.Superseded start (.success .unit start) (.failure (.unexpected start "b")) := by
    rintro ⟨_, _, ⟨⟩, hconsumed⟩
    cases hconsumed
  obtain ⟨outcome, houtcome⟩ := (xor_regrouped hhere hb hany (.inl rfl)).1 hkept
  obtain ⟨w', _, hleft, hright⟩ := houtcome w trivial
  obtain ⟨hleft', hright'⟩ := (xor_regrouped hhere hac hany (.inr (by decide))).2
    ⟨⟨_, _, rfl, rfl⟩, _, rfl, rfl⟩
  obtain ⟨u, _, hrunLeft⟩ := hleft' w trivial
  obtain ⟨u', _, hrunRight⟩ := hright' w trivial
  have hrun : ((here.xor b).xor any).matcher (World.call 0) start w =
      some (.success (.str "a") (start.skip 1), _) := rfl
  rw [hleft] at hrun
  obtain ⟨rfl, _⟩ := Prod.mk.inj (Option.some.inj hrun)
  exact ⟨⟨w', hleft, hright⟩, ⟨u, hrunLeft⟩, u', hrunRight⟩

end Descent
