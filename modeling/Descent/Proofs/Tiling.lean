/-
  Descent/Proofs/Tiling.lean
  ==========================
  **Spans of a repetition** — they lie end to end, and nothing between them gets lost.

  Each span is made of two cursors of one run: where a parser was started and where it
  stopped.  A repetition starts each round at the cursor where the one before stopped, so
  neighbouring spans share a place.  It ends with the first round that stays where it is,
  and that round adds no value, so no span is empty (`Span.Tiles.cons`).

  Where a round stopped may have been read off the guard.  It is then a place that the
  round would have come to itself, since all that the guard holds over a text is reached
  by stepping; so nothing here asks how a round came to its end.
-/
import Descent.Proofs.Forward
import Mathlib.Data.List.Chain

namespace Descent

/-- The spans lead from one cursor to another one behind it, each from where the one
    before stops; none is empty, and together they are for the text between the cursors. -/
structure Span.Tiles (text : List Char) (c d : Cursor) (spans : List Span) : Prop where
  reaches : c.Reaches d
  starts : ∀ s, spans.head? = some s → s.start = c.position
  joined : spans.IsChain fun s t => s.stop = t.start
  stops : ∀ s, spans.getLast? = some s → s.stop = d.position
  nonempty : ∀ s ∈ spans, s.isEmpty = false
  slices : spans.flatMap (·.slice text) = c.sliceTo d

namespace Span.Tiles

variable {text : List Char} {c d e : Cursor} {spans : List Span}

theorem nil (c : Cursor) : Tiles text c c [] where
  reaches := .refl c
  starts := by simp
  joined := by simp
  stops := by simp
  nonempty := by simp
  slices := (Cursor.Passes.refl c).sliceTo_eq.symm

theorem cons (hc : c.Over text) (hcd : c.Reaches d) (hmoves : ¬ d.sameSpot c = true)
    (h : Tiles text d e spans) : Tiles text c e (⟨c.position, d.position⟩ :: spans) := by
  constructor
  case reaches => exact hcd.trans h.reaches
  case starts => simp
  case joined =>
    rw [List.isChain_cons]
    constructor
    · intro s hs
      exact (h.starts s hs).symm
    · exact h.joined
  case stops =>
    intro s hs
    rcases hlast : spans.getLast? with _ | last
    · -- No span follows, so the rest of the stretch is empty and `d` is the end.
      obtain rfl := List.getLast?_eq_none_iff.mp hlast
      obtain ⟨between, hpasses⟩ := h.reaches.passes
      have hnone : between = [] := by rw [← hpasses.sliceTo_eq, ← h.slices, List.flatMap_nil]
      subst hnone
      have hsame : d = e :=
        (hc.reaches hcd).eq_of_offset (hc.reaches (hcd.trans h.reaches)) hpasses.offset_eq.symm
      have hs : (⟨c.position, d.position⟩ : Span) = s := by simpa using hs
      rw [← hs, hsame]
    · rw [List.getLast?_cons, hlast] at hs
      cases hs
      exact h.stops last hlast
  case nonempty =>
    intro s hs
    rcases List.mem_cons.mp hs with rfl | hs
    · apply decide_eq_false
      intro hoffset
      have hsame : c = d := hc.eq_of_offset (hc.reaches hcd) hoffset
      exact hmoves (by simp [hsame, Cursor.sameSpot])
    · exact h.nonempty s hs
  case slices =>
    obtain ⟨first, hfirst⟩ := hcd.passes
    obtain ⟨rest, hrest⟩ := h.reaches.passes
    obtain ⟨_, between, _, hcut⟩ := hc.exists_cut hcd
    rw [List.flatMap_cons, h.slices, hcut.span_slice, ← hcut.sliceTo_eq, hfirst.sliceTo_eq,
      hrest.sliceTo_eq, (hfirst.trans hrest).sliceTo_eq]

end Span.Tiles

namespace World

variable {text : List Char} {n : Nat} {p : Parser} {committed : Bool} {c d : Cursor}
  {w w' : World} {v : Value}

theorem gather_tiled (fuel : Nat) {found : List Value} (hc : c.Over text)
    (hw : w.guard.Sure text)
    (hrun : Matcher.gather committed ((Parser.positioned p).matcher (call n)) fuel found c w =
      some (.success v d, w')) :
    ∃ items : List (Value × Span), v = .list (found.reverse ++ items.map fun (u, s) => .span u s) ∧
      Span.Tiles text c d (items.map (·.2)) := by
  induction fuel generalizing found c w with
  | zero => cases hrun
  | succ fuel ih =>
    rw [Matcher.gather] at hrun
    rcases hround : (Parser.positioned p).matcher (call n) c w with _ | ⟨⟨u, e⟩ | f | e, w₁⟩
    · rw [Matcher.handle_of_none hround] at hrun
      cases hrun
    · rw [Matcher.handle_of_success hround] at hrun
      by_cases hspot : e.sameSpot c = true
      · rw [if_pos hspot] at hrun
        cases hrun
        exact ⟨[], by simp, .nil _⟩
      · rw [if_neg hspot] at hrun
        obtain ⟨x, rfl⟩ := span_of_positioned hround
        obtain ⟨⟨hsure, -⟩, hreach⟩ := matcher_keeps .trivial hc ⟨hw, True.intro⟩ hround
        have hce : c.Reaches e := hreach
        obtain ⟨items, rfl, htiles⟩ := ih (hc.reaches hce) hsure hrun
        refine ⟨(x, ⟨c.position, e.position⟩) :: items, by simp, ?_⟩
        exact htiles.cons hc hce hspot
    · rw [Matcher.handle_of_failure hround] at hrun
      by_cases hcut : (committed && f.consumedFrom c) = true
      · rw [if_pos hcut] at hrun
        cases hrun
      · rw [if_neg hcut] at hrun
        cases hrun
        exact ⟨[], by simp, .nil _⟩
    · rw [Matcher.handle_of_defect hround] at hrun
      cases hrun

/-- **The spans of a repetition tile what it consumes.**  A parser whose spans are asked for
    is repeated at a cursor over a text, freely or committed, under a guard whose entries, if
    it has any, were recorded over the same text.  If that succeeds, its value is a list of
    spans that lead from the cursor to the remainder, each from where the one before stops.
    None of them is empty, and their texts in turn are the text that was consumed. -/
theorem run_tiled (hc : c.Over text) (hguard : w.guard.Recorded text)
    (hrun : run (.many committed (.positioned p)) c w = some (.success v d, w')) :
    ∃ items : List (Value × Span), v = .list (items.map fun (u, s) => .span u s) ∧
      Span.Tiles text c d (items.map (·.2)) ∧
      ∃ before behind,
        Cursor.Cut text c d before ((items.map (·.2)).flatMap (·.slice text)) behind := by
  obtain ⟨items, rfl, htiles⟩ := gather_tiled (c.rest.length + 1) hc hguard.sure hrun
  refine ⟨items, by simp, htiles, ?_⟩
  obtain ⟨before, between, behind, hcut⟩ := hc.exists_cut htiles.reaches
  rw [htiles.slices, hcut.sliceTo_eq]
  exact ⟨before, behind, hcut⟩

/-- From a guard without entries, and then committed under the guard that this leaves.  In
    each round the rule is run and given up, and is then served from the guard. -/
theorem run_tiled_served :
    let item : Parser := .rule ⟨⟨0, "item"⟩, true⟩
    let p : Parser := .or (.and item (.string "x")) item
    let start : Cursor := .start ['é', '\n', 'b']
    let v : Value := .list [.span (.str "é") ⟨⟨0, 1, 1⟩, ⟨2, 1, 2⟩⟩,
      .span (.str "\n") ⟨⟨2, 1, 2⟩, ⟨3, 2, 1⟩⟩, .span (.str "b") ⟨⟨3, 2, 1⟩, ⟨4, 2, 2⟩⟩]
    let tiled := ∃ items : List (Value × Span), v = .list (items.map fun (u, s) => .span u s) ∧
      Span.Tiles ['é', '\n', 'b'] start (start.skip 3) (items.map (·.2))
    ∃ w w₁ w₂, w.guard.entries = [] ∧
      run (.many false (.positioned p)) start w = some (.success v (start.skip 3), w₁) ∧ tiled ∧
      w₁.guard.entries.length = 4 ∧
      run (.many true (.positioned p)) start w₁ = some (.success v (start.skip 3), w₂) ∧ tiled := by
  intro item p start v tiled
  let served : List Record := [⟨4, 2, 2⟩, ⟨3, 2, 1⟩, ⟨2, 1, 2⟩, .start].map (.served ⟨0, "item"⟩)
  let filled : Guard := ⟨none, [
    ((0, 4), .done (.failed ⟨4, 2, 2⟩ "unexpected end of input" ["more text"])),
    ((0, 3), .done (.parsed (.str "b") ⟨4, 2, 2⟩)),
    ((0, 2), .done (.parsed (.str "\n") ⟨3, 2, 1⟩)),
    ((0, 0), .done (.parsed (.str "é") ⟨2, 1, 2⟩))]⟩
  let world (g : Guard) (journal : List Record) : World :=
    ⟨[.defined (.take 1)], .empty, g, journal, []⟩
  have hfirst : run (.many false (.positioned p)) start (world .empty []) =
      some (.success v (start.skip 3), world filled served) := rfl
  have hguard : filled.Recorded ['é', '\n', 'b'] :=
    .ran (.fresh (rfl : (world .empty []).guard.entries = [])) (.start _) hfirst
  have hsecond : run (.many true (.positioned p)) start (world filled served) =
      some (.success v (start.skip 3), _) := rfl
  obtain ⟨items, hv, htiles, -⟩ := run_tiled (.start _) (.fresh rfl) hfirst
  obtain ⟨items', hv', htiles', -⟩ := run_tiled (.start _) hguard hsecond
  exact ⟨_, _, _, rfl, hfirst, ⟨items, hv, htiles⟩, rfl, hsecond, ⟨items', hv', htiles'⟩⟩

end World

end Descent
