/-
  Descent/Proofs/Advance.lean
  ===========================
  **Walking forward** — which cursors can be reached from which.

  `Cursor.Reaches c d` says that `d` is some number of steps behind `c`, and
  `Cursor.Over text c` that `c` is some number of steps behind the start of `text`.
  A cursor is plain data, so nothing keeps its three parts in agreement; over a text
  they are: the unread text is what the steps left (`Reaches.exists_between`), and
  the offset alone says which cursor it is (`Over.eq_of_offset`).

  That is why a place can stand in for a cursor: `Cursor.relocate` brings back the
  very cursor whose place was kept (`Over.relocate_eq`).
-/
import Descent.Cursor
import Descent.Span
import Mathlib.Logic.Relation

namespace Descent

namespace Position

def afterAll (p : Position) (text : List Char) : Position := text.foldl after p

theorem offset_after (p : Position) (ch : Char) : (p.after ch).offset = p.offset + ch.utf8Size := by
  unfold after
  split <;> rfl

theorem offset_afterAll (p : Position) (text : List Char) :
    (p.afterAll text).offset = p.offset + Text.byteSize text := by
  induction text generalizing p with
  | nil => rfl
  | cons ch text ih =>
    have hstep : (p.afterAll (ch :: text)).offset = ((p.after ch).afterAll text).offset := rfl
    rw [hstep, ih, offset_after, Text.byteSize, Nat.add_assoc]

theorem afterAll_append (p : Position) (first second : List Char) :
    p.afterAll (first ++ second) = (p.afterAll first).afterAll second := by
  simp [afterAll, List.foldl_append]

end Position

namespace Text

theorem byteSize_pos {text : List Char} (h : text ≠ []) : 0 < byteSize text := by
  obtain ⟨ch, text, rfl⟩ := List.exists_cons_of_ne_nil h
  exact Nat.add_pos_left ch.utf8Size_pos _

theorem append_inj_of_byteSize {first first' rest rest' : List Char}
    (h : first ++ rest = first' ++ rest') (hsize : byteSize first = byteSize first') :
    first = first' ∧ rest = rest' := by
  have hfirst := takeBytes_byteSize_append first rest
  have hrest := dropBytes_byteSize_append first rest
  rw [h, hsize, takeBytes_byteSize_append] at hfirst
  rw [h, hsize, dropBytes_byteSize_append] at hrest
  exact ⟨hfirst.symm, hrest.symm⟩

end Text

namespace Cursor

/-- `d` is zero or more steps behind `c`. -/
def Reaches : Cursor → Cursor → Prop := Relation.ReflTransGen fun c d => c.advance? = some d

/-- The cursor is zero or more steps behind the start of a text. -/
def Over (text : List Char) (c : Cursor) : Prop := (Cursor.start text).Reaches c

theorem advance?_eq_some_iff {c d : Cursor} :
    c.advance? = some d ↔
      ∃ ch, c.rest = ch :: d.rest ∧ d.source = c.source ∧ d.position = c.position.after ch := by
  obtain ⟨source, position, rest⟩ := c
  obtain ⟨source', position', rest'⟩ := d
  cases rest with
  | nil => simp [advance?, step?]
  | cons ch rest =>
    simp only [advance?, step?, Option.map_some, Option.some.injEq, Cursor.mk.injEq,
      List.cons.injEq]
    constructor
    · rintro ⟨rfl, rfl, rfl⟩
      exact ⟨ch, ⟨rfl, rfl⟩, rfl, rfl⟩
    · rintro ⟨_, ⟨rfl, rfl⟩, rfl, rfl⟩
      exact ⟨rfl, rfl, rfl⟩

namespace Reaches

theorem refl (c : Cursor) : c.Reaches c := Relation.ReflTransGen.refl

theorem trans {c d e : Cursor} (hcd : c.Reaches d) (hde : d.Reaches e) : c.Reaches e :=
  Relation.ReflTransGen.trans hcd hde

theorem step {c d : Cursor} (h : c.advance? = some d) : c.Reaches d :=
  Relation.ReflTransGen.single h

/-- What lies between a cursor and one that it reaches: the text that the steps
    passed. -/
theorem exists_between {c d : Cursor} (h : c.Reaches d) :
    ∃ between, c.rest = between ++ d.rest ∧ d.source = c.source ∧
      d.position = c.position.afterAll between := by
  induction h with
  | refl => exact ⟨[], rfl, rfl, rfl⟩
  | tail _ hstep ih =>
    obtain ⟨between, hrest, hsource, hposition⟩ := ih
    obtain ⟨ch, hch, hsource', hposition'⟩ := advance?_eq_some_iff.mp hstep
    refine ⟨between ++ [ch], ?_, hsource'.trans hsource, ?_⟩
    · rw [hrest, hch, List.append_assoc, List.singleton_append]
    · rw [hposition', hposition, Position.afterAll_append]
      rfl

theorem offset_le {c d : Cursor} (h : c.Reaches d) : c.offset ≤ d.offset := by
  obtain ⟨between, _, _, hposition⟩ := h.exists_between
  rw [offset, offset, hposition, Position.offset_afterAll]
  exact Nat.le_add_right _ _

theorem eq_or_rest_lt {c d : Cursor} (h : c.Reaches d) :
    d = c ∨ d.rest.length < c.rest.length := by
  obtain ⟨between, hrest, hsource, hposition⟩ := h.exists_between
  cases between with
  | nil =>
    left
    obtain ⟨source, position, rest⟩ := c
    obtain ⟨source', position', rest'⟩ := d
    simp only [List.nil_append, Position.afterAll, List.foldl_nil] at hrest hsource hposition
    rw [hrest, hsource, hposition]
  | cons ch between =>
    right
    rw [hrest, List.cons_append, List.length_cons, List.length_append]
    omega

/-- Whether something was consumed is decided by the place alone. -/
theorem eq_of_sameSpot {c d : Cursor} (h : c.Reaches d) (hspot : d.sameSpot c = true) : d = c := by
  obtain ⟨between, hrest, _, hposition⟩ := h.exists_between
  have hoffset := Position.offset_afterAll c.position between
  rw [← hposition, of_decide_eq_true hspot] at hoffset
  rcases h.eq_or_rest_lt with rfl | hlt
  · rfl
  · exfalso
    cases between with
    | nil =>
      rw [hrest] at hlt
      exact Nat.lt_irrefl _ hlt
    | cons ch between =>
      have hpos : 0 < ch.utf8Size := ch.utf8Size_pos
      simp only [Text.byteSize] at hoffset
      omega

theorem rest_lt {c d : Cursor} (h : c.Reaches d) (hspot : ¬ d.sameSpot c = true) :
    d.rest.length < c.rest.length := by
  rcases h.eq_or_rest_lt with rfl | hlt
  · exact absurd (decide_eq_true rfl) hspot
  · exact hlt

theorem skip (n : Nat) (c : Cursor) : c.Reaches (c.skip n) := by
  induction n generalizing c with
  | zero => exact refl c
  | succ n ih =>
    rcases hstep : c.advance? with _ | d
    · rw [Cursor.skip, hstep]
      exact refl c
    · rw [Cursor.skip, hstep]
      exact (step hstep).trans (ih d)

theorem skip_rest_lt {n : Nat} {c : Cursor} (hn : 0 < n) (hrest : 0 < c.rest.length) :
    (c.skip n).rest.length < c.rest.length := by
  obtain ⟨n, rfl⟩ := Nat.exists_eq_succ_of_ne_zero (Nat.ne_of_gt hn)
  obtain ⟨ch, rest, hcons⟩ := List.exists_cons_of_length_pos hrest
  have hstep : c.advance? = some ⟨c.source, c.position.after ch, rest⟩ :=
    advance?_eq_some_iff.mpr ⟨ch, hcons, rfl, rfl⟩
  rw [Cursor.skip, hstep, hcons, List.length_cons]
  simp only
  rcases (skip n ⟨c.source, c.position.after ch, rest⟩).eq_or_rest_lt with heq | hlt
  · rw [heq]
    exact Nat.lt_succ_self _
  · exact Nat.lt_succ_of_lt hlt

theorem exists_skip {c d : Cursor} (h : c.Reaches d) :
    ∃ n, n ≤ c.rest.length ∧ c.skip n = d := by
  induction h using Relation.ReflTransGen.head_induction_on with
  | refl => exact ⟨0, Nat.zero_le _, rfl⟩
  | head hstep _ ih =>
    obtain ⟨n, hn, hskip⟩ := ih
    obtain ⟨ch, hch, _, _⟩ := advance?_eq_some_iff.mp hstep
    refine ⟨n + 1, ?_, ?_⟩
    · rw [hch, List.length_cons]
      exact Nat.succ_le_succ hn
    · rw [Cursor.skip, hstep]
      exact hskip

end Reaches

namespace Over

variable {text : List Char} {c d : Cursor}

theorem start (text : List Char) : (Cursor.start text).Over text := Reaches.refl _

theorem reaches (hc : c.Over text) (h : c.Reaches d) : d.Over text := Reaches.trans hc h

/-- A cursor over a text splits it in the part before and the part to come. -/
theorem exists_before (hc : c.Over text) :
    ∃ before, text = before ++ c.rest ∧ c.source = text ∧
      c.position = Position.start.afterAll before ∧ c.offset = Text.byteSize before := by
  obtain ⟨before, hrest, hsource, hposition⟩ := Reaches.exists_between hc
  refine ⟨before, hrest, hsource, hposition, ?_⟩
  rw [offset, hposition, Position.offset_afterAll]
  exact Nat.zero_add _

/-- **The offset tells cursors apart.**  Over one text there is one cursor for each
    offset. -/
theorem eq_of_offset (hc : c.Over text) (hd : d.Over text) (h : c.offset = d.offset) : c = d := by
  obtain ⟨before, hrest, hsource, hposition, hoffset⟩ := hc.exists_before
  obtain ⟨before', hrest', hsource', hposition', hoffset'⟩ := hd.exists_before
  have hsize : Text.byteSize before = Text.byteSize before' := by rw [← hoffset, h, hoffset']
  obtain ⟨rfl, hsame⟩ := Text.append_inj_of_byteSize (hrest.symm.trans hrest') hsize
  obtain ⟨source, position, rest⟩ := c
  obtain ⟨source', position', rest'⟩ := d
  simp only at hsource hsource' hposition hposition' hsame
  rw [hsource, hsource', hposition, hposition', hsame]

/-- **A place brings its cursor back.** -/
theorem relocate_eq (hc : c.Over text) (hd : d.Over text) : c.relocate d.position = d := by
  obtain ⟨_, _, hsource, _, _⟩ := hc.exists_before
  obtain ⟨before, hrest, hsource', hposition, hoffset⟩ := hd.exists_before
  have hdrop : Text.dropBytes d.position.offset text = d.rest := by
    have hcut := Text.dropBytes_byteSize_append before d.rest
    rw [← hrest, ← hoffset] at hcut
    exact hcut
  rw [relocate, hsource, hdrop, ← hsource']

end Over

/-! ### What is passed -/

/-- The cursor `d` is behind `c`, and the characters between them are the given ones. -/
structure Passes (c : Cursor) (between : List Char) (d : Cursor) : Prop where
  rest_eq : c.rest = between ++ d.rest
  offset_eq : d.offset = c.offset + Text.byteSize between

theorem Reaches.passes {c d : Cursor} (h : c.Reaches d) : ∃ between, c.Passes between d := by
  obtain ⟨between, hrest, _, hposition⟩ := h.exists_between
  refine ⟨between, hrest, ?_⟩
  rw [offset, hposition, Position.offset_afterAll]
  rfl

namespace Passes

theorem refl (c : Cursor) : c.Passes [] c := ⟨rfl, rfl⟩

theorem trans {c d e : Cursor} {first second : List Char} (hcd : c.Passes first d)
    (hde : d.Passes second e) : c.Passes (first ++ second) e := by
  refine ⟨?_, ?_⟩
  · rw [hcd.rest_eq, hde.rest_eq, List.append_assoc]
  · rw [hde.offset_eq, hcd.offset_eq, Text.byteSize_append, Nat.add_assoc]

theorem rest_of_append {c d : Cursor} {between rest : List Char} (h : c.Passes between d)
    (hrest : c.rest = between ++ rest) : d.rest = rest :=
  List.append_cancel_left (h.rest_eq.symm.trans hrest)

theorem sliceTo_eq {c d : Cursor} {between : List Char} (h : c.Passes between d) :
    c.sliceTo d = between := by
  have hdistance : d.offset - c.offset = Text.byteSize between := by
    rw [h.offset_eq]
    exact Nat.add_sub_cancel_left _ _
  rw [sliceTo, hdistance, h.rest_eq, Text.takeBytes_byteSize_append]

theorem not_sameSpot {c d : Cursor} {between : List Char} (h : c.Passes between d)
    (hne : between ≠ []) : ¬ d.sameSpot c = true := by
  intro hspot
  have hsame : d.offset = c.offset := congrArg Position.offset (of_decide_eq_true hspot)
  have hpos : 0 < Text.byteSize between := Text.byteSize_pos hne
  rw [h.offset_eq] at hsame
  omega

theorem advance {c d : Cursor} (h : c.advance? = some d) : ∃ ch, c.Passes [ch] d := by
  obtain ⟨ch, hrest, _, hposition⟩ := advance?_eq_some_iff.mp h
  refine ⟨ch, hrest, ?_⟩
  rw [offset, hposition, Position.offset_after]
  rfl

theorem skip (n : Nat) (c : Cursor) : c.Passes (c.rest.take n) (c.skip n) := by
  induction n generalizing c with
  | zero => exact refl c
  | succ n ih =>
    rcases hstep : c.advance? with _ | d
    · have hrest : c.rest = [] := by
        rcases hrest : c.rest with _ | ⟨ch, rest⟩
        · rfl
        · simp [advance?, step?, hrest] at hstep
      rw [Cursor.skip, hstep, hrest]
      exact refl c
    · obtain ⟨ch, hpasses⟩ := advance hstep
      rw [Cursor.skip, hstep, hpasses.rest_eq]
      exact hpasses.trans (ih d)

/-- As many characters as a leading part of the unread text has are that part. -/
theorem of_starts {c : Cursor} {between : List Char} (h : between <+: c.rest) :
    c.Passes between (c.skip between.length) := by
  have hskip := skip between.length c
  rwa [← List.prefix_iff_eq_take.mp h] at hskip

end Passes

theorem rest_skip (n : Nat) (c : Cursor) : (c.skip n).rest = c.rest.drop n :=
  (Passes.skip n c).rest_of_append (List.take_append_drop n c.rest).symm

end Cursor

end Descent
