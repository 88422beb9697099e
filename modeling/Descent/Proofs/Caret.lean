/-
  Descent/Proofs/Caret.lean
  =========================
  **Where the caret stands** — a snippet shows the lines around a place and points at it.

  The cursor counts lines while it walks, the snippet finds them by cutting the text at its
  line feeds.  Both number the same lines: the line of a place is the characters since the
  last line feed with those up to the next one (`Snippet.getElem?_splitOn`), and the first of
  these two parts is what the column counts.

  The pointer is indented by the bytes of the margin and by the columns before the place.
  A margin has as many characters as bytes, however many digits its number takes
  (`Snippet.utf8ByteSize_margin`), so the caret stands under a character, not under a byte.
-/
import Descent.Proofs.Places
import Descent.Snippet
import Mathlib.Data.List.Intervals

namespace Descent

theorem Text.byteSize_of_ascii {text : List Char} (h : ∀ ch ∈ text, ch.utf8Size = 1) :
    byteSize text = text.length := by
  induction text with
  | nil => rfl
  | cons ch text ih =>
    have htext : byteSize text = text.length := ih fun c hc => h c (List.mem_cons_of_mem _ hc)
    rw [byteSize, h ch List.mem_cons_self, htext, List.length_cons, Nat.add_comm]

namespace Snippet

/-! ### The lines of a text -/

theorem splitLines_eq (source : List Char) : splitLines source = source.splitOn '\n' := by
  induction source with
  | nil => rfl
  | cons ch source ih =>
    rw [List.splitOn_cons_eq_if_modifyHead, ← ih, splitLines]
    by_cases hfeed : ch = '\n'
    · simp [hfeed]
    · have hne : splitLines source ≠ [] := ih ▸ List.splitOn_ne_nil '\n' source
      obtain ⟨line, lines, hlines⟩ := List.exists_cons_of_ne_nil hne
      simp [hfeed, hlines]

theorem length_splitOn (source : List Char) :
    (source.splitOn '\n').length = source.count '\n' + 1 := by
  induction source with
  | nil => rfl
  | cons ch source ih =>
    rw [List.splitOn_cons_eq_if_modifyHead]
    by_cases hfeed : ch = '\n'
    · simp [hfeed, ih]
    · simp [hfeed, ih]

theorem head?_splitOn (source : List Char) :
    (source.splitOn '\n')[0]? = some (source.takeWhile (· ≠ '\n')) := by
  induction source with
  | nil => rfl
  | cons ch source ih =>
    rw [List.splitOn_cons_eq_if_modifyHead]
    by_cases hfeed : ch = '\n'
    · simp [hfeed]
    · simp_all

/-- The line of a place, as the text before and the text behind the place give it. -/
theorem getElem?_splitOn (before rest : List Char) :
    ((before ++ rest).splitOn '\n')[before.count '\n']? =
      some (before.rtakeWhile (· ≠ '\n') ++ rest.takeWhile (· ≠ '\n')) := by
  induction before using List.reverseRecOn generalizing rest with
  | nil => exact head?_splitOn rest
  | append_singleton before ch ih =>
    rw [List.append_assoc, List.singleton_append]
    by_cases hfeed : ch = '\n'
    · subst hfeed
      have hlength := length_splitOn before
      rw [List.splitOn_append_cons_self, List.getElem?_append_right (by simp [hlength])]
      simpa [hlength] using head?_splitOn rest
    · have hline := ih (ch :: rest)
      simp_all

/-- A cursor's line is the characters that its column counts and the unread ones up to a line
    feed. -/
theorem exists_line {source : List Char} {c : Cursor} (hc : c.Over source) :
    1 ≤ c.position.line ∧ ∃ before, before.length = c.position.column - 1 ∧
      (source.splitOn '\n')[c.position.line - 1]? =
        some (before ++ c.rest.takeWhile (· ≠ '\n')) := by
  obtain ⟨before, hsource, -, hposition, -⟩ := hc.exists_before
  have hline : c.position.line = 1 + before.count '\n' := by
    rw [hposition]
    exact Position.line_afterAll _ _
  have hcolumn : c.position.column = 1 + (before.rtakeWhile (· ≠ '\n')).length := by
    rw [hposition, Position.column_afterAll, Position.start, ite_self]
  have htext := getElem?_splitOn before c.rest
  rw [← hsource] at htext
  rw [hline, hcolumn, Nat.add_sub_cancel_left, Nat.add_sub_cancel_left]
  exact ⟨Nat.le_add_right _ _, _, rfl, htext⟩

/-! ### The lines that are shown -/

variable {β : Type}

theorem zipIdx_flatMap (lines : List (List Char)) (k : Nat) (f : List Char → Nat → List β) :
    ((lines.zipIdx k).flatMap fun (line, number) => f line number) =
      (List.Ico k (k + lines.length)).flatMap fun n => f (lines.getD (n - k) []) n := by
  induction lines generalizing k with
  | nil => simp
  | cons line lines ih =>
    have hlater : ∀ n ∈ List.Ico (k + 1) (k + 1 + lines.length),
        f (lines.getD (n - (k + 1)) []) n = f ((line :: lines).getD (n - k) []) n := by
      intro n hn
      obtain ⟨hle, _⟩ := List.Ico.mem.mp hn
      obtain ⟨i, rfl⟩ := Nat.exists_eq_add_of_le hle
      have hback : k + 1 + i - k = i + 1 := by omega
      rw [hback, Nat.add_sub_cancel_left, List.getD_cons_succ]
    have hspan : k + (line :: lines).length = k + 1 + lines.length := by
      rw [List.length_cons]
      omega
    rw [List.zipIdx_cons, List.flatMap_cons, ih, List.flatMap_congr hlater, hspan,
      List.Ico.eq_cons (n := k) (by omega), List.flatMap_cons, Nat.sub_self]
    rfl

theorem flatMap_filter_of_nil {p : Nat → Bool} {f : Nat → List β} (l : List Nat)
    (h : ∀ n, p n = false → f n = []) : (l.filter p).flatMap f = l.flatMap f := by
  induction l with
  | nil => rfl
  | cons n l ih =>
    rcases hn : p n with _ | _
    · simp [hn, h n hn, ih]
    · simp [hn, ih]

/-- Numbers that show nothing may be left out. -/
theorem flatMap_Ico_of_nil {f : Nat → List β} {low high first last : Nat}
    (h : ∀ n, n < first ∨ last ≤ n → f n = []) :
    (List.Ico low high).flatMap f = (List.Ico (max low first) (min high last)).flatMap f := by
  have hbehind : ∀ n, decide (n < last) = false → f n = [] :=
    fun n hn => h n (.inr (by simpa using hn))
  have hbefore : ∀ n, decide (first ≤ n) = false → f n = [] :=
    fun n hn => h n (.inl (by simpa using hn))
  rw [← flatMap_filter_of_nil _ hbehind, List.Ico.filter_lt, ← flatMap_filter_of_nil _ hbefore,
    List.Ico.filter_le]

def numbered (mark : String) (lines : List (List Char)) (n : Nat) : String :=
  mark ++ toString n ++ " | " ++ String.ofList (stripReturn (lines.getD (n - 1) []))

theorem showLine_of_far {p : Position} {line : List Char} {n : Nat}
    (h : n < p.line - 2 ∨ p.line + 3 ≤ n) : showLine p line n = [] := by
  rw [showLine, if_pos]
  unfold reach
  omega

theorem showLine_of_near {p : Position} {lines : List (List Char)} {n : Nat} (hne : n ≠ p.line)
    (hlow : p.line - 2 ≤ n) (hhigh : n < p.line + 3) :
    showLine p (lines.getD (n - 1) []) n = [numbered "    " lines n] := by
  have hnear : ¬ (n + reach < p.line ∨ p.line + reach < n) := by
    unfold reach
    omega
  simp [showLine, hnear, hne, margin, numbered]

theorem showLine_self (p : Position) (lines : List (List Char)) :
    showLine p (lines.getD (p.line - 1) []) p.line =
      [numbered "  > " lines p.line, pointer p.line p.column] := by
  simp [showLine, margin, numbered]

theorem lines_eq {source : List Char} {p : Position} (hpos : 1 ≤ p.line)
    (hline : p.line ≤ (source.splitOn '\n').length) :
    lines source p =
      (List.Ico (max 1 (p.line - 2)) p.line).map (numbered "    " (source.splitOn '\n')) ++
        [numbered "  > " (source.splitOn '\n') p.line, pointer p.line p.column] ++
        (List.Ico (p.line + 1) (min (source.splitOn '\n').length (p.line + 2) + 1)).map
          (numbered "    " (source.splitOn '\n')) := by
  generalize hlines : source.splitOn '\n' = lines at hline ⊢
  have hbefore : ∀ n ∈ List.Ico (max 1 (p.line - 2)) p.line,
      showLine p (lines.getD (n - 1) []) n = [numbered "    " lines n] := by
    intro n hn
    obtain ⟨hlow, hhigh⟩ := List.Ico.mem.mp hn
    exact showLine_of_near (by omega) (by omega) (by omega)
  have hbehind : ∀ n ∈ List.Ico (p.line + 1) (min lines.length (p.line + 2) + 1),
      showLine p (lines.getD (n - 1) []) n = [numbered "    " lines n] := by
    intro n hn
    obtain ⟨hlow, hhigh⟩ := List.Ico.mem.mp hn
    exact showLine_of_near (by omega) (by omega) (by omega)
  have hfar : ∀ n, n < p.line - 2 ∨ p.line + 3 ≤ n →
      showLine p (lines.getD (n - 1) []) n = [] := fun n => showLine_of_far
  have hend : min (1 + lines.length) (p.line + 3) = min lines.length (p.line + 2) + 1 := by omega
  rw [Snippet.lines, splitLines_eq, hlines, zipIdx_flatMap, flatMap_Ico_of_nil hfar, hend,
    ← List.Ico.append_consecutive (m := p.line) (by omega) (by omega),
    List.Ico.eq_cons (n := p.line) (by omega), List.flatMap_append, List.flatMap_cons,
    List.flatMap_congr hbefore, List.flatMap_congr hbehind, showLine_self]
  simp [List.map_eq_flatMap]

/-! ### The caret -/

theorem stripReturn_eq_iff {line shown : List Char} :
    stripReturn line = shown ↔
      line = shown ++ ['\r'] ∨ line = shown ∧ line.getLast? ≠ some '\r' := by
  rw [stripReturn]
  by_cases hend : line.getLast? = some '\r'
  · obtain ⟨front, rfl⟩ := List.getLast?_eq_some_iff.mp hend
    simp
  · rw [if_neg hend]
    constructor
    · rintro rfl
      exact .inr ⟨rfl, hend⟩
    · rintro (rfl | ⟨rfl, -⟩)
      · exact absurd List.getLast?_concat hend
      · rfl

/-- Only the last character of a line may be missing, and only a carriage return. -/
theorem getElem?_stripReturn {before behind : List Char} {ch : Char}
    (h : ¬ (ch = '\r' ∧ behind = [])) :
    (stripReturn (before ++ ch :: behind))[before.length]? = some ch := by
  have hat : ∀ more, (before ++ ch :: more)[before.length]? = some ch := by
    intro more
    simp
  rw [stripReturn]
  by_cases hend : (before ++ ch :: behind).getLast? = some '\r'
  · have hbehind : behind ≠ [] := by
      rintro rfl
      rw [List.getLast?_concat] at hend
      exact h ⟨Option.some.inj hend, rfl⟩
    rw [if_pos hend, List.dropLast_append_cons, List.dropLast_cons_of_ne_nil hbehind]
    exact hat _
  · rw [if_neg hend]
    exact hat _

theorem getElem?_stripReturn_takeWhile {before rest : List Char} {ch : Char} (hfeed : ch ≠ '\n')
    (hreturn : ¬ (ch = '\r' ∧ (rest = [] ∨ rest.head? = some '\n'))) :
    (stripReturn (before ++ (ch :: rest).takeWhile (· ≠ '\n')))[before.length]? = some ch := by
  have hkept : (ch :: rest).takeWhile (· ≠ '\n') = ch :: rest.takeWhile (· ≠ '\n') :=
    List.takeWhile_cons_of_pos (by simpa using hfeed)
  rw [hkept]
  apply getElem?_stripReturn
  rintro ⟨rfl, hnone⟩
  apply hreturn
  cases rest with
  | nil => exact ⟨rfl, .inl rfl⟩
  | cons next rest => exact ⟨rfl, .inr (by simpa using hnone)⟩

theorem utf8ByteSize_repr (n : Nat) : n.repr.utf8ByteSize = n.repr.length := by
  have hdigits : ∀ ch ∈ n.repr.toList, ch.utf8Size = 1 := by
    intro ch hch
    rw [Nat.toList_repr] at hch
    have hdigit := Nat.isDigit_of_mem_toDigits (by decide) (by decide) hch
    simp only [Char.isDigit, Bool.and_eq_true, decide_eq_true_eq] at hdigit
    rw [Char.utf8Size_eq_one_iff]
    exact UInt32.le_trans hdigit.2 (by decide)
  have hsize := Text.byteSize_of_ascii hdigits
  rwa [Text.byteSize_eq, String.ofList_toList, String.length_toList] at hsize

/-- A margin has as many characters as bytes. -/
theorem utf8ByteSize_margin (marked : Bool) (n : Nat) :
    (margin marked n).utf8ByteSize = (margin marked n).length := by
  have hnumber : (toString n).utf8ByteSize = (toString n).length := utf8ByteSize_repr n
  have hmark : (if marked then "  > " else "    ").utf8ByteSize =
      (if marked then "  > " else "    ").length := by cases marked <;> rfl
  have hbar : " | ".utf8ByteSize = " | ".length := rfl
  rw [margin, String.utf8ByteSize_append, String.utf8ByteSize_append, hmark, hnumber, hbar,
    String.length_append, String.length_append]

/-- The snippet shows the lines around the cursor, and its caret stands under the cursor's
    character. -/
structure PointsAt (source : List Char) (c : Cursor) (snippet : List String) (caret : Nat) :
    Prop where
  line_pos : 1 ≤ c.position.line
  line_le : c.position.line ≤ (source.splitOn '\n').length
  snippet_eq : snippet =
    (List.Ico (max 1 (c.position.line - 2)) c.position.line).map
        (numbered "    " (source.splitOn '\n')) ++
      [numbered "  > " (source.splitOn '\n') c.position.line,
        String.ofList (List.replicate caret ' ') ++ "^--- here"] ++
      (List.Ico (c.position.line + 1)
          (min (source.splitOn '\n').length (c.position.line + 2) + 1)).map
        (numbered "    " (source.splitOn '\n'))
  caret_eq : caret = (margin true c.position.line).utf8ByteSize + (c.position.column - 1)
  getElem?_caret : ∀ ch rest, c.rest = ch :: rest → ch ≠ '\n' →
    ¬ (ch = '\r' ∧ (rest = [] ∨ rest.head? = some '\n')) →
    (numbered "  > " (source.splitOn '\n') c.position.line).toList[caret]? = some ch

theorem getElem?_numbered (mark : String) (lines : List (List Char)) (n i : Nat) :
    (numbered mark lines n).toList[(mark ++ toString n ++ " | ").length + i]? =
      (stripReturn (lines.getD (n - 1) []))[i]? := by
  rw [numbered]
  generalize mark ++ toString n ++ " | " = front
  have hpast : front.toList.length ≤ front.length + i := by
    rw [String.length_toList]
    exact Nat.le_add_right _ _
  rw [String.toList_append, String.toList_ofList, List.getElem?_append_right hpast,
    String.length_toList, Nat.add_sub_cancel_left]

/-- **The caret stands under the cursor's character.**  The snippet at a cursor shows the lines
    of its text from two lines before its own to two lines behind, as far as there are such
    lines, in order and each without one carriage return at its end.  It marks the cursor's
    line, a pointer follows that line and no other, and in the marked line the cursor's
    character stands over the caret. -/
theorem caret_points {source : List Char} {c : Cursor} (hc : c.Over source) :
    (∃ caret, PointsAt source c (lines c.source c.position) caret) ∧
    ∀ line shown, stripReturn line = shown ↔
      line = shown ++ ['\r'] ∨ line = shown ∧ line.getLast? ≠ some '\r' := by
  refine ⟨?_, fun line shown => stripReturn_eq_iff⟩
  obtain ⟨-, -, hover, -⟩ := hc.exists_before
  obtain ⟨hpos, before, hbefore, hline⟩ := exists_line hc
  have hle : c.position.line ≤ (source.splitOn '\n').length := by
    obtain ⟨hlt, -⟩ := List.getElem?_eq_some_iff.mp hline
    omega
  have hbytes := utf8ByteSize_margin true c.position.line
  refine ⟨(margin true c.position.line).length + (c.position.column - 1), hpos, hle, ?_, ?_, ?_⟩
  · rw [hover]
    exact lines_eq hpos hle
  · rw [hbytes]
  · intro ch rest hrest hfeed hreturn
    have hmargin : margin true c.position.line = "  > " ++ toString c.position.line ++ " | " := rfl
    rw [hmargin, ← hbefore, getElem?_numbered, List.getD_eq_getElem?_getD, hline, Option.getD_some,
      hrest]
    exact getElem?_stripReturn_takeWhile hfeed hreturn

/-- On the second line, behind a character of two bytes and in front of a carriage return. -/
theorem caret_points_second_line :
    let source := ['a', '\n', 'é', 'x', '\r', '\n', 'b']
    let c := (Cursor.start source).skip 3
    c.Over source ∧ c.current? = some 'x' ∧
      ∃ caret, PointsAt source c (lines c.source c.position) caret ∧
        (numbered "  > " (source.splitOn '\n') c.position.line).toList[caret]? = some 'x' := by
  intro source c
  have hc : c.Over source := Cursor.Reaches.skip 3 (Cursor.start source)
  obtain ⟨⟨caret, hpoints⟩, -⟩ := caret_points hc
  exact ⟨hc, rfl, caret, hpoints,
    hpoints.getElem?_caret 'x' ['\r', '\n', 'b'] rfl (by decide) (by decide)⟩

example : lines ['a', '\n', 'é', 'x', '\r', '\n', 'b'] ⟨4, 2, 2⟩ =
    ["    1 | a", "  > 2 | éx", "         ^--- here", "    3 | b"] := by
  cbv

end Snippet

end Descent
