/-
  Descent/Proofs/Forward.lean
  ===========================
  **Runs go forward** — every cursor of every outcome is reached by stepping.

  A cursor is moved by stepping everywhere but in one place: an outcome that the guard
  holds is put back over the text by its place alone.  That is safe because the guard
  was filled by runs over the same text (`Guard.Recorded`), which went forward
  themselves.

  Two cursors over a text, one behind the other, cut it in three (`Cursor.Cut`).  All
  that is ever read off a pair of cursors is one of the three parts or a length of
  one, so nothing is read out of range.
-/
import Descent.Proofs.Expansion

namespace Descent

/-! ### What two cursors cut -/

/-- The cursors `c` and `d` cut a text in three, and all that is read off them is cut
    there. -/
structure Cursor.Cut (text : List Char) (c d : Cursor) (before between behind : List Char) :
    Prop where
  text_eq : text = before ++ between ++ behind
  offset_start : c.offset = Text.byteSize before
  offset_stop : d.offset = Text.byteSize (before ++ between)
  offset_le : c.offset ≤ d.offset
  rest_start : c.rest = between ++ behind
  rest_stop : d.rest = behind
  source_stop : d.source = text
  sliceTo_eq : c.sliceTo d = between
  recent_eq : d.recent =
    (before ++ between).drop ((before ++ between).length - Cursor.recentLength)
  /-- The length of the stretch does not fall below zero: it makes up the difference. -/
  span_length : c.position.offset + (Span.mk c.position d.position).length = d.position.offset
  span_slice : (Span.mk c.position d.position).slice text = between

namespace Cursor

variable {text : List Char} {c d : Cursor}

theorem Over.exists_cut (hc : c.Over text) (hcd : c.Reaches d) :
    ∃ before between behind, Cut text c d before between behind := by
  obtain ⟨before, htext, hsource, hposition, hoffset⟩ := hc.exists_before
  obtain ⟨between, hrest, hsource', hposition'⟩ := hcd.exists_between
  have hstop : d.offset = c.offset + Text.byteSize between := by
    rw [Cursor.offset, hposition', Position.offset_afterAll]
    rfl
  have hdiff : d.offset - c.offset = Text.byteSize between := by omega
  have hcut : text = before ++ between ++ d.rest := by rw [List.append_assoc, ← hrest, ← htext]
  have hstop' : d.offset = Text.byteSize (before ++ between) := by
    rw [Text.byteSize_append, hstop, hoffset]
  refine ⟨before, between, d.rest, hcut, hoffset, hstop', hcd.offset_le, hrest, rfl,
    hsource'.trans hsource, ?_, ?_, ?_, ?_⟩
  · rw [sliceTo, hdiff, hrest, Text.takeBytes_byteSize_append]
  · have hconsumed : Text.takeBytes d.offset d.source = before ++ between := by
      rw [hsource'.trans hsource, hstop', hcut, Text.takeBytes_byteSize_append]
    rw [recent, hconsumed]
  · have hle := hcd.offset_le
    simp only [Span.length]
    rw [Cursor.offset, Cursor.offset] at hle
    omega
  · have hlength : (Span.mk c.position d.position).length = Text.byteSize between := hdiff
    have hfrom : Text.dropBytes c.position.offset text = between ++ d.rest := by
      have hbefore := Text.dropBytes_byteSize_append before c.rest
      rw [← htext, ← hoffset, hrest] at hbefore
      exact hbefore
    rw [Span.slice, hlength, hfrom, Text.takeBytes_byteSize_append]

end Cursor

/-! ### Guards that runs have filled -/

/-- Every entry of the guard was recorded over the text, by runs that are over or
    still under way. -/
inductive Guard.Recorded (text : List Char) : Guard → Prop where
  | fresh {g : Guard} (h : g.entries = []) : Recorded text g
  | entered {g : Guard} (rule : RuleId) (offset : Nat) (h : Recorded text g) :
    Recorded text (g.enter rule offset)
  /-- A parser was run, in any world under this guard. -/
  | ran {n : Nat} {p : Parser} {c : Cursor} {w w' : World} {r : Reply}
    (h : Recorded text w.guard) (hc : c.Over text)
    (hrun : p.matcher (World.call n) c w = some (r, w')) : Recorded text w'.guard

theorem Guard.Recorded.sure {text : List Char} {g : Guard} (h : g.Recorded text) :
    g.Sure text := by
  induction h with
  | fresh h => exact .of_no_entries h
  | entered rule offset _ ih => exact ih.enter rule offset
  | ran _ hc hrun ih => exact (World.matcher_keeps .trivial hc ⟨ih, True.intro⟩ hrun).1.1

/-! ### Every outcome -/

namespace World

variable {n : Nat} {c : Cursor} {w w' : World}

/-- A span is for the stretch from where its parser was started to where it stopped. -/
theorem span_of_positioned {p : Parser} {d : Cursor} {v : Value}
    (hrun : (Parser.positioned p).matcher (call n) c w = some (.success v d, w')) :
    ∃ u, v = .span u ⟨c.position, d.position⟩ := by
  simp only [Parser.matcher, Matcher.positioned] at hrun
  rcases hp : p.matcher (call n) c w with _ | ⟨r, w₁⟩
  · rw [Matcher.handle_of_none hp] at hrun
    cases hrun
  · cases r with
    | success u e =>
      rw [Matcher.handle_of_success hp] at hrun
      cases hrun
      exact ⟨u, rfl⟩
    | failure f =>
      rw [Matcher.handle_of_failure hp] at hrun
      cases hrun
    | defect e =>
      rw [Matcher.handle_of_defect hp] at hrun
      cases hrun

/-- **Every outcome is reached by stepping.**  A parser that is run at a cursor over a
    text, under a guard whose entries were recorded over the same text, replies with a
    cursor that is zero or more steps behind its own, also where the reply comes from
    the guard.  The two cursors cut the text between characters, and everything that
    is read off them is in range; so is the span that `Parser.positioned` makes of
    them.

    The depth `n` is arbitrary: `World.run` is the case of the depth that it computes,
    and the other depths are those of the parsers that run inside it. -/
theorem reply_reached {text : List Char} {p : Parser} {r : Reply} (hc : c.Over text)
    (hw : w.guard.Recorded text) (hrun : p.matcher (call n) c w = some (r, w')) :
    c.Reaches r.place ∧
      (∃ before between behind, Cursor.Cut text c r.place before between behind) ∧
      ∀ q v d, p = .positioned q → r = .success v d →
        ∃ u, v = .span u ⟨c.position, r.place.position⟩ := by
  have hreach : c.Reaches r.place :=
    (matcher_keeps .trivial hc ⟨hw.sure, True.intro⟩ hrun).2
  refine ⟨hreach, hc.exists_cut hreach, ?_⟩
  rintro q v d rfl rfl
  exact span_of_positioned hrun

/-- A rule that takes two characters is run, and run again with its outcome in the
    guard: the span of the second run ends behind the line feed. -/
theorem reply_reached_from_guard :
    ∃ first second r w₁ w₂,
      run first (.start ['é', '\n', 'b'])
        ⟨[.defined (.scan fun _ => .accept 2 .unit)], .empty, .empty, [], []⟩ = some (r, w₁) ∧
      run second (.start ['é', '\n', 'b']) w₁ =
        some (.success (.span .unit ⟨.start, ⟨3, 2, 1⟩⟩)
          ⟨['é', '\n', 'b'], ⟨3, 2, 1⟩, ['b']⟩, w₂) ∧
      w₂.journal = [.served ⟨0, "two"⟩ .start] ∧
      (Cursor.start ['é', '\n', 'b']).Reaches ⟨['é', '\n', 'b'], ⟨3, 2, 1⟩, ['b']⟩ := by
  let first : Parser := .rule ⟨⟨0, "two"⟩, true⟩
  let world (g : Guard) : World :=
    ⟨[.defined (.scan fun _ => .accept 2 .unit)], .empty, g, [], []⟩
  let filled : Guard := ⟨none, [((0, 0), .done (.parsed .unit ⟨3, 2, 1⟩))]⟩
  have hfirst : run first (.start ['é', '\n', 'b']) (world .empty) = some (_, world filled) := rfl
  have hsecond : run (.positioned first) (.start ['é', '\n', 'b']) (world filled) =
      some (.success _ _, _) := rfl
  have hguard : filled.Recorded ['é', '\n', 'b'] :=
    .ran (.fresh (rfl : (world .empty).guard.entries = [])) (.start _) hfirst
  exact ⟨first, .positioned first, _, _, _, hfirst, hsecond, rfl,
    (reply_reached (.start _) hguard hsecond).1⟩

end World

end Descent
