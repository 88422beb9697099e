/-
  Descent/Proofs/Places.lean
  ==========================
  **What a place counts** — offset, line and column, read off the text before it.

  A cursor counts as it walks and never looks back.  What it has counted is a fact about the
  text behind it: its bytes, its line feeds, and its characters since the last line feed
  (`Position.line_afterAll`, `Position.column_afterAll`).

  Places are ordered in three ways.  The whole place tells whether anything was consumed, the
  offset tells which failure got furthest, and line and column are what a reader is told.  A
  stretch of text that is not empty goes up in all three (`Position.ordered_afterAll`), so
  over one text each of them is the order of the numbers of steps.
-/
import Descent.Proofs.Advance
import Mathlib.Data.List.DropRight

namespace Descent

namespace Text

theorem byteSize_eq (text : List Char) : byteSize text = (String.ofList text).utf8ByteSize := by
  induction text with
  | nil => rfl
  | cons ch text ih =>
    rw [byteSize, ih, String.ofList_cons, String.utf8ByteSize_append, String.utf8ByteSize_singleton]

end Text

namespace Position

variable {p q : Position} {o : Ordering}

theorem afterAll_concat (p : Position) (text : List Char) (ch : Char) :
    p.afterAll (text ++ [ch]) = (p.afterAll text).after ch :=
  afterAll_append p text [ch]

theorem line_afterAll (p : Position) (text : List Char) :
    (p.afterAll text).line = p.line + text.count '\n' := by
  induction text using List.reverseRecOn with
  | nil => rfl
  | append_singleton text ch ih =>
    rw [afterAll_concat, List.count_append]
    by_cases hfeed : ch = '\n'
    · subst hfeed
      simp [after, ih, Nat.add_assoc]
    · simp [after, hfeed, ih]

/-- Columns start anew behind a line feed. -/
theorem column_afterAll (p : Position) (text : List Char) :
    (p.afterAll text).column =
      (if '\n' ∈ text then 1 else p.column) + (text.rtakeWhile (· ≠ '\n')).length := by
  induction text using List.reverseRecOn with
  | nil => rfl
  | append_singleton text ch ih =>
    rw [afterAll_concat]
    by_cases hfeed : ch = '\n'
    · subst hfeed
      simp [after]
    · have hmem : '\n' ∈ text ++ [ch] ↔ '\n' ∈ text := by simp [Ne.symm hfeed]
      simp [after, hfeed, ih, hmem, Nat.add_assoc]

def readingOrder (p q : Position) : Ordering :=
  (Ord.compare p.line q.line).then (Ord.compare p.column q.column)

/-- By each of the three orders the first place compares to the second one alike. -/
structure Ordered (o : Ordering) (p q : Position) : Prop where
  by_offset : Ord.compare p.offset q.offset = o
  by_place : compare p q = o
  by_reading : readingOrder p q = o

theorem Ordered.refl (p : Position) : Ordered .eq p p := by
  constructor
  · exact Nat.compare_eq_eq.mpr rfl
  · simp [compare]
  · simp [readingOrder]

theorem Ordered.swap (h : Ordered o p q) : Ordered o.swap q p := by
  obtain ⟨hoffset, hplace, hreading⟩ := h
  subst hoffset
  constructor
  · rw [Nat.compare_swap]
  · rw [← hplace]
    simp only [compare, Ordering.swap_then, Nat.compare_swap]
  · rw [← hreading]
    simp only [readingOrder, Ordering.swap_then, Nat.compare_swap]

theorem ordered_afterAll (p : Position) {text : List Char} (h : text ≠ []) :
    Ordered .lt p (p.afterAll text) := by
  have hoffset : p.offset < (p.afterAll text).offset := by
    rw [offset_afterAll]
    exact Nat.lt_add_of_pos_right (Text.byteSize_pos h)
  have hreading : readingOrder p (p.afterAll text) = .lt := by
    rw [readingOrder, Ordering.then_eq_lt, Nat.compare_eq_lt, Nat.compare_eq_eq, Nat.compare_eq_lt,
      line_afterAll, column_afterAll]
    by_cases hfeed : '\n' ∈ text
    · left
      have hcount : 0 < text.count '\n' := List.count_pos_iff.mpr hfeed
      omega
    · right
      have hcount : text.count '\n' = 0 := List.count_eq_zero.mpr hfeed
      have hall : text.rtakeWhile (· ≠ '\n') = text := by
        rw [List.rtakeWhile_eq_self_iff]
        intro ch hch
        simpa using fun heq : ch = '\n' => hfeed (heq ▸ hch)
      have hlength : 0 < text.length := List.length_pos_iff.mpr h
      rw [hall, if_neg hfeed]
      omega
  refine ⟨Nat.compare_eq_lt.mpr hoffset, ?_, hreading⟩
  rw [compare, Nat.compare_eq_lt.mpr hoffset]
  rfl

end Position

namespace Cursor

variable {source : List Char} {c : Cursor} {j k : Nat}

theorem advance?_eq_none_iff : c.advance? = none ↔ c.rest = [] := by
  rcases hrest : c.rest with _ | ⟨ch, rest⟩
  · simp [advance?, step?, hrest]
  · simp [advance?, step?, hrest]

/-- The cursor `k` steps further; nothing if the text ends before. -/
def walk? : Nat → Cursor → Option Cursor
  | 0, c => some c
  | k + 1, c => c.advance?.bind (walk? k)

theorem walk?_eq_skip (h : k ≤ c.rest.length) : c.walk? k = some (c.skip k) := by
  induction k generalizing c with
  | zero => rfl
  | succ k ih =>
    obtain ⟨ch, rest, hrest⟩ := List.exists_cons_of_length_pos (Nat.lt_of_lt_of_le k.succ_pos h)
    have hstep : c.advance? = some ⟨c.source, c.position.after ch, rest⟩ :=
      advance?_eq_some_iff.mpr ⟨ch, hrest, rfl, rfl⟩
    have hlength : k ≤ rest.length := by
      rw [hrest] at h
      exact Nat.le_of_succ_le_succ h
    rw [walk?, skip, hstep, Option.bind_some]
    exact ih hlength

theorem skip_eq (k : Nat) (c : Cursor) :
    c.skip k = ⟨c.source, c.position.afterAll (c.rest.take k), c.rest.drop k⟩ := by
  obtain ⟨between, hrest, hsource, hposition⟩ := (Reaches.skip k c).exists_between
  have hbetween : between = c.rest.take k := by
    rw [rest_skip] at hrest
    exact (List.append_cancel_right ((List.take_append_drop k c.rest).trans hrest)).symm
  rw [hbetween] at hposition
  rw [← hsource, ← hposition, ← rest_skip]

theorem start_skip (source : List Char) (k : Nat) :
    (start source).skip k =
      ⟨source, Position.start.afterAll (source.take k), source.drop k⟩ :=
  skip_eq k (start source)

/-- All that the cursor tells of its place is counted in the first `k` characters of the
    text. -/
structure Counts (source : List Char) (k : Nat) (c : Cursor) : Prop where
  source_eq : c.source = source
  offset_eq : c.offset = (String.ofList (source.take k)).utf8ByteSize
  line_eq : c.position.line = 1 + (source.take k).count '\n'
  column_eq : c.position.column = 1 + ((source.take k).rtakeWhile (· ≠ '\n')).length
  rest_eq : c.rest = source.drop k
  /-- What is left of the text is what stands in it from the offset on. -/
  rest_eq_dropBytes : c.rest = Text.dropBytes c.offset source
  current_eq : c.current? = source[k]?
  atEnd_iff : c.atEnd = true ↔ k = source.length
  /-- The offset reaches the size of the text at the end only. -/
  size_le_offset_iff : (String.ofList source).utf8ByteSize ≤ c.offset ↔ k = source.length
  advance_eq_none_iff : c.advance? = none ↔ k = source.length
  recent_eq : c.recent = (source.take k).rtake (min k 10)

theorem counts_skip (h : k ≤ source.length) : ((start source).skip k).Counts source k := by
  rw [start_skip]
  have hcut := List.take_append_drop k source
  have hoffset : (Position.start.afterAll (source.take k)).offset =
      Text.byteSize (source.take k) := by
    rw [Position.offset_afterAll]
    exact Nat.zero_add _
  have hend : source.drop k = [] ↔ k = source.length := by
    rw [List.drop_eq_nil_iff]
    omega
  constructor
  case source_eq => rfl
  case offset_eq => exact hoffset.trans (Text.byteSize_eq _)
  case line_eq => exact Position.line_afterAll _ _
  case column_eq =>
    have hcolumn := Position.column_afterAll Position.start (source.take k)
    rwa [Position.start, ite_self] at hcolumn
  case rest_eq => rfl
  case rest_eq_dropBytes =>
    have hdrop := Text.dropBytes_byteSize_append (source.take k) (source.drop k)
    rw [hcut, ← hoffset] at hdrop
    exact hdrop.symm
  case current_eq => exact List.head?_drop
  case atEnd_iff => exact List.isEmpty_iff.trans hend
  case size_le_offset_iff =>
    have hsize := Text.byteSize_append (source.take k) (source.drop k)
    rw [hcut, ← hoffset, Text.byteSize_eq source] at hsize
    rw [← hend]
    constructor
    · intro hle
      by_contra hmore
      have hpos := Text.byteSize_pos hmore
      exact absurd hle (by rw [hsize]; exact Nat.not_le.mpr (Nat.lt_add_of_pos_right hpos))
    · intro hnone
      rw [hsize, hnone]
      exact Nat.le_refl _
  case advance_eq_none_iff => exact advance?_eq_none_iff.trans hend
  case recent_eq =>
    have htake := Text.takeBytes_byteSize_append (source.take k) (source.drop k)
    rw [hcut, ← hoffset] at htake
    have hlength : (source.take k).length = k := List.length_take_of_le h
    have hkept : k - recentLength = k - min k 10 := by
      rw [recentLength]
      omega
    simp only [recent, offset, htake, List.rtake, hlength, hkept]

theorem ordered_skip (hk : k ≤ source.length) (h : j < k) :
    Position.Ordered .lt ((start source).skip j).position ((start source).skip k).position := by
  have hbetween : (source.drop j).take (k - j) ≠ [] := by
    rw [← List.length_pos_iff, List.length_take, List.length_drop]
    omega
  have htake : source.take k = source.take j ++ (source.drop j).take (k - j) := by
    rw [← List.take_add, Nat.add_sub_cancel' (Nat.le_of_lt h)]
  rw [start_skip, start_skip, htake, Position.afterAll_append]
  exact Position.ordered_afterAll _ hbetween

/-- **A cursor counts what is behind it.**  After `k` steps from the start of a text its offset
    is the size in bytes of the first `k` characters, its line counts their line feeds and its
    column the characters behind the last one of them; what is left are the other characters.
    Of two cursors over one text the offsets, the places, and the lines and columns are in the
    order of the numbers of steps, and the cursors stand at the same place if these are equal. -/
theorem places_counted (hj : j ≤ source.length) (hk : k ≤ source.length) :
    ∃ c d, (start source).walk? j = some c ∧ (start source).walk? k = some d ∧
      c.Counts source j ∧ d.Counts source k ∧
      Position.Ordered (Ord.compare j k) c.position d.position ∧ (c.sameSpot d = true ↔ j = k) := by
  refine ⟨_, _, walk?_eq_skip hj, walk?_eq_skip hk, counts_skip hj, counts_skip hk, ?_⟩
  have hordered : Position.Ordered (Ord.compare j k) ((start source).skip j).position
      ((start source).skip k).position := by
    rcases Nat.lt_trichotomy j k with hlt | rfl | hgt
    · rw [Nat.compare_eq_lt.mpr hlt]
      exact ordered_skip hk hlt
    · rw [Nat.compare_eq_eq.mpr rfl]
      exact .refl _
    · rw [Nat.compare_eq_gt.mpr hgt]
      exact (ordered_skip hj hgt).swap
  refine ⟨hordered, ?_⟩
  constructor
  · intro hspot
    have hsame := hordered.by_offset
    rw [of_decide_eq_true hspot, Nat.compare_eq_eq.mpr rfl] at hsame
    exact Nat.compare_eq_eq.mp hsame.symm
  · rintro rfl
    exact decide_eq_true rfl

/-- Behind the first character the offset has grown by two, behind the third one the second
    line has begun. -/
theorem places_counted_second_line :
    let source := ['é', '\n', 'a', 'b']
    1 ≤ source.length ∧ 3 ≤ source.length ∧
      ∃ c d, (start source).walk? 1 = some c ∧ (start source).walk? 3 = some d ∧
        c.position = ⟨2, 1, 2⟩ ∧ d.position = ⟨4, 2, 2⟩ ∧ d.recent = ['é', '\n', 'a'] ∧
        Position.Ordered .lt c.position d.position := by
  intro source
  have hj : 1 ≤ source.length := by decide
  have hk : 3 ≤ source.length := by decide
  obtain ⟨c, d, hc, hd, _, hcounts, hordered, _⟩ := places_counted hj hk
  have hrecent := hcounts.recent_eq
  cases hc
  cases hd
  exact ⟨hj, hk, _, _, rfl, rfl, rfl, rfl, hrecent, hordered⟩

end Cursor

end Descent
