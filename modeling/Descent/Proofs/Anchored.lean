/-
  Descent/Proofs/Anchored.lean
  ============================
  **Where a pattern matches** — at the cursor, if its text is an expression by itself.

  A library of regular expressions says which matches an expression has at a place, the
  preferred one first, and that a search gives the preferred match at the first place that
  has one.  It says so of the notation that a pattern is wrapped into, too: `^` matches at
  the start of the text alone, a group matches what its expression matches, and a group
  behind `^` is tried where `^` has matched (`Pattern.Documented`).

  So a pattern that is an expression by itself has no match but at the start of the unread
  text, and the preferred one there is found (`Pattern.Documented.find?_anchored`).

  A text that closes the group itself and goes on with `|` is no expression, but wrapped it
  is one.  Its second alternative stands beside the start and is searched for everywhere.
  What is found is only known to stand somewhere in the text, and the cursor moves by the
  length of it all the same, from where it stood (`Parser.pattern_unanchored`).
-/
import Descent.Matcher
import Descent.Pattern
import Descent.Proofs.Advance
import Descent.World

namespace Descent

namespace Pattern

/-! ### What a library documents -/

/-- The lengths of the matches at a place, between what stands before it and what stands
    behind it; the preferred one first. -/
abbrev Matches := (before rest : List Char) → List Nat

/-- The preferred match at the first place of a text that has one. -/
def leftmost? (matched : Matches) (text : List Char) : Option (Occurrence text) :=
  (List.range (text.length + 1)).findSome? fun start =>
    (matched (text.take start) (text.drop start)).head?.map (.at text start)

/-- What a library says of the matches of its programs. -/
structure Documented (lib : Library) (matched : lib.Program → Matches) : Prop where
  find : ∀ program text, lib.find? program text = leftmost? (matched program) text
  /-- The start of the text is matched where nothing stands before. -/
  start : ∀ program, lib.compile? "^" = some program →
    ∀ before rest, matched program before rest = if before = [] then [0] else []
  group : ∀ text program inner, lib.compile? text = some inner →
    lib.compile? (grouped text) = some program → matched program = matched inner
  /-- A group behind the start is matched from where the start has matched. -/
  behind_start : ∀ text program inner, lib.compile? text = some inner →
    lib.compile? ("^" ++ grouped text) = some program →
      ∃ first second, lib.compile? "^" = some first ∧ lib.compile? (grouped text) = some second ∧
        ∀ before rest, matched program before rest =
          (matched first before rest).flatMap fun n =>
            (matched second (before ++ rest.take n) (rest.drop n)).map (n + ·)

theorem leftmost?_of_start {matched : Matches}
    (hstart : ∀ before rest, before ≠ [] → matched before rest = []) (text : List Char) :
    leftmost? matched text = (matched [] text).head?.map (.at text 0) := by
  have hlater : ∀ k ∈ (List.range text.length).map Nat.succ,
      (matched (text.take k) (text.drop k)).head?.map (Occurrence.at text k) = none := by
    intro k hk
    obtain ⟨i, hi, rfl⟩ := List.mem_map.mp hk
    have hlt : i < text.length := List.mem_range.mp hi
    have hne : text.take i.succ ≠ [] := by
      rw [← List.length_pos_iff, List.length_take]
      omega
    rw [hstart _ _ hne, List.head?_nil, Option.map_none]
  rw [leftmost?, List.range_succ_eq_map, List.findSome?_cons, List.findSome?_eq_none_iff.mpr hlater]
  simp only [List.take_zero, List.drop_zero]
  cases (matched [] text).head?.map (Occurrence.at text 0) <;> rfl

namespace Documented

variable {lib : Library} {matched : lib.Program → Matches} {text : String}
  {program inner : lib.Program}

/-- **An expression that is wrapped matches at the start only**, and what it matches there
    by itself. -/
theorem matched_anchored (hlib : Documented lib matched) (hinner : lib.compile? text = some inner)
    (hprogram : lib.compile? (anchored text) = some program) (before rest : List Char) :
    matched program before rest = if before = [] then matched inner [] rest else [] := by
  obtain ⟨first, second, hfirst, hsecond, hmatched⟩ := hlib.behind_start _ _ _ hinner hprogram
  rw [hmatched, hlib.start first hfirst, hlib.group _ _ _ hinner hsecond]
  split
  · next hnone => simp [hnone]
  · rfl

/-- **What is found for an expression that is wrapped** is its preferred match at the start. -/
theorem find?_anchored (hlib : Documented lib matched) (hinner : lib.compile? text = some inner)
    (hprogram : lib.compile? (anchored text) = some program) (rest : List Char) :
    lib.find? program rest = (matched inner [] rest).head?.map (.at rest 0) := by
  have hmatched := hlib.matched_anchored hinner hprogram
  rw [hlib.find, leftmost?_of_start fun before rest hne => by rw [hmatched, if_neg hne], hmatched,
    if_pos rfl]

end Documented

end Pattern

/-! ### Parsers of patterns -/

open Pattern

section

variable {σ : Type} [Traced σ] {call : Handle → Matcher σ} {lib : Library}
  {matched : lib.Program → Matches} {text : String} {p : Parser} {c d : Cursor} {s s' : σ}
  {v : Value}

theorem Occurrence.isInfix {text : List Char} (o : Occurrence text) : o.found <:+: text :=
  ⟨o.before, o.behind, by rw [List.append_assoc, o.text_eq]⟩

theorem Parser.found_of_pattern (hp : Parser.pattern lib text = .ok p)
    (hrun : p.matcher call c s = some (.success v d, s')) :
    ∃ program o, lib.compile? (anchored text) = some program ∧
      lib.find? program c.rest = some o ∧ v = .str (String.ofList o.found) ∧
        d = c.skip o.found.length := by
  rw [Parser.pattern] at hp
  split at hp
  · next program hprogram =>
    cases hp
    have hreply : Matcher.conclude c (Scanner.pattern lib program ("/" ++ text ++ "/") c.rest) =
        .success v d := congrArg Prod.fst (Option.some.inj hrun)
    rw [Scanner.pattern] at hreply
    split at hreply
    · next o hfind =>
      obtain ⟨hvalue, hplace⟩ := Reply.success.inj hreply
      exact ⟨program, o, hprogram, hfind, hvalue.symm, hplace.symm⟩
    · cases hreply
  · cases hp

/-- **A pattern that is an expression by itself matches at the cursor.**  Whatever the
    pattern, the value of a success is a part of the unread text, and the cursor is moved by
    as many characters.  If the text of the pattern is an expression, too, that part is its
    preferred match at the start of the unread text: the cursor is moved over it, and it is
    the text between both cursors. -/
theorem Parser.pattern_anchored (hlib : Documented lib matched)
    (hp : Parser.pattern lib text = .ok p)
    (hrun : p.matcher call c s = some (.success v d, s')) :
    ∃ found, v = .str (String.ofList found) ∧ d = c.skip found.length ∧ found <:+: c.rest ∧
      ∀ inner, lib.compile? text = some inner →
        (matched inner [] c.rest).head?.map c.rest.take = some found ∧
          c.rest = found ++ d.rest ∧ c.sliceTo d = found := by
  obtain ⟨program, o, hprogram, hfind, hvalue, rfl⟩ := found_of_pattern hp hrun
  refine ⟨o.found, hvalue, rfl, o.isInfix, fun inner hinner => ?_⟩
  rw [hlib.find?_anchored hinner hprogram] at hfind
  obtain ⟨n, hn, rfl⟩ := Option.map_eq_some_iff.mp hfind
  have hstarts : (Occurrence.at c.rest 0 n).found <+: c.rest := List.take_prefix n c.rest
  have hpasses := Cursor.Passes.of_starts hstarts
  exact ⟨by rw [hn]; rfl, hpasses.rest_eq, hpasses.sliceTo_eq⟩

end

/-! ### A library of a few expressions -/

inductive Pattern.Expression where
  | start
  | literal (text : List Char)
  | both (p q : Expression)
  | either (p q : Expression)
  deriving DecidableEq

namespace Pattern.Expression

def matched : Expression → Matches
  | .start, before, _ => if before = [] then [0] else []
  | .literal text, _, rest => if text.isPrefixOf rest then [text.length] else []
  | .both p q, before, rest =>
    (p.matched before rest).flatMap fun n =>
      (q.matched (before ++ rest.take n) (rest.drop n)).map (n + ·)
  | .either p q, before, rest => p.matched before rest ++ q.matched before rest

/-- The two alternatives of the first pattern stand in a group.  The second pattern closes
    that group and opens another one. -/
def known : List (String × Expression) :=
  let ifOrElse : Expression := .either (.literal ['i', 'f']) (.literal ['e', 'l', 's', 'e'])
  [("^", .start), ("if|else", ifOrElse), ("(?:if|else)", ifOrElse),
    ("^(?:if|else)", .both .start ifOrElse),
    ("^(?:a)|(?:b)", .either (.both .start (.literal ['a'])) (.literal ['b']))]

def library : Library :=
  ⟨Expression, fun text => known.lookup text, fun p text => leftmost? p.matched text⟩

theorem mem_of_compile? {text : String} {p : Expression} (h : library.compile? text = some p) :
    (text, p) ∈ known := by
  obtain ⟨before, after, heq, _⟩ := List.lookup_eq_some_iff.mp h
  rw [heq]
  simp

theorem documented : Documented library matched := by
  have hgrouped : ∀ e ∈ known, known.lookup (grouped e.1) = none ∨
      known.lookup (grouped e.1) = some e.2 := by
    decide
  have hwrapped : ∀ e ∈ known, known.lookup ("^" ++ grouped e.1) = none ∨
      known.lookup (grouped e.1) = some e.2 ∧
        known.lookup ("^" ++ grouped e.1) = some (.both .start e.2) := by
    decide
  constructor
  case find => exact fun _ _ => rfl
  case start =>
    rintro program ⟨⟩ before rest
    rfl
  case group =>
    intro text program inner hinner hprogram
    rcases hgrouped _ (mem_of_compile? hinner) with hnone | hsame
    · cases hnone.symm.trans hprogram
    · exact congrArg matched (Option.some.inj (hprogram.symm.trans hsame))
  case behind_start =>
    intro text program inner hinner hprogram
    rcases hwrapped _ (mem_of_compile? hinner) with hnone | ⟨hsecond, hboth⟩
    · cases hnone.symm.trans hprogram
    · refine ⟨.start, inner, rfl, hsecond, fun before rest => ?_⟩
      rw [Option.some.inj (hprogram.symm.trans hboth)]
      rfl

end Pattern.Expression

/-- Behind `x` the first alternative does not match, and the second one does. -/
theorem Parser.pattern_anchored_alternatives :
    let c : Cursor := (Cursor.start ['x', 'e', 'l', 's', 'e', 's']).skip 1
    ∃ p d, Parser.pattern Expression.library "if|else" = .ok p ∧
      p.matcher (World.call 0) c .empty = some (.success (.str "else") d, .empty) ∧
      c.rest = ['e', 'l', 's', 'e'] ++ d.rest ∧ c.sliceTo d = ['e', 'l', 's', 'e'] := by
  intro c
  obtain ⟨p, hp, hrun⟩ : ∃ p, Parser.pattern Expression.library "if|else" = .ok p ∧
      p.matcher (World.call 0) c .empty = some (.success (.str "else") (c.skip 4), .empty) :=
    ⟨_, rfl, rfl⟩
  obtain ⟨found, hvalue, _, _, hanchored⟩ := pattern_anchored Expression.documented hp hrun
  have htext : String.ofList ['e', 'l', 's', 'e'] = String.ofList found := Value.str.inj hvalue
  obtain rfl : ['e', 'l', 's', 'e'] = found := String.ofList_injective htext
  exact ⟨_, _, hp, hrun, (hanchored _ rfl).2⟩

/-- **A pattern that closes its group is not anchored.**  The second alternative stands
    outside of the group.  Over `xb` it matches behind the cursor, and the cursor is moved
    over `x`, which is not the value. -/
theorem Parser.pattern_unanchored :
    let start : Cursor := .start ['x', 'b']
    ∃ p, Parser.pattern Expression.library "a)|(?:b" = .ok p ∧
      p.matcher (World.call 0) start .empty = some (.success (.str "b") (start.skip 1), .empty) ∧
      ¬ ['b'] <+: start.rest ∧ start.sliceTo (start.skip 1) = ['x'] := by
  intro start
  exact ⟨_, rfl, rfl, by decide, rfl⟩

end Descent
