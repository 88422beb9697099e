/-
  Descent/Proofs/Decimals.lean
  ============================
  **What is a decimal** — the texts that the grammar for decimals accepts.

  The grammar takes digits as long as there are any and does not come back to give some of
  them away, and behind a separator it insists on a digit.  That it still finds every
  decimal rests on one fact: behind digits the separator shows that they have ended, since
  it does not itself start with a digit (`Parser.number_takes`).  An empty separator shows
  nothing, but there a decimal is a run of digits (`Text.Decimal.digits_of_nil`).

  That nothing else is accepted does not depend on the separator.  Whatever a matcher takes
  is put together from what its parts take (`Matcher.Yields`), and a parser for whole texts
  turns down a text of which something is left.
-/
import Descent.Parser.Lexeme
import Descent.Proofs.Reading
import Descent.World

namespace Descent

/-! ### Numerals -/

namespace Text

variable {separator text more digits : List Char}

/-- Digits alone, or with the separator between or before them. -/
inductive Decimal (separator : List Char) : List Char → Prop
  | whole {digits : List Char} (h : Digits digits) : Decimal separator digits
  | mixed {digits more : List Char} (h : Digits digits) (hmore : Digits more) :
      Decimal separator (digits ++ (separator ++ more))
  | fraction {more : List Char} (h : Digits more) : Decimal separator (separator ++ more)

/-- Without a separator a decimal is digits. -/
theorem Decimal.digits_of_nil (h : Decimal [] text) : Digits text := by
  cases h with
  | whole h => exact h
  | mixed h hmore => exact h.append hmore
  | fraction h => exact h

theorem Decimal.digits_or_infix (h : Decimal separator text) :
    Digits text ∨ separator <:+: text := by
  cases h with
  | whole h => exact .inl h
  | @mixed digits more _ _ => exact .inr ⟨digits, more, List.append_assoc _ _ _⟩
  | @fraction more _ => exact .inr ⟨[], more, rfl⟩

/-- A text goes on with no digit, or with digits and then with no digit. -/
theorem noDigitAhead_or_digits (text : List Char) :
    NoDigitAhead text ∨
      ∃ digits rest, text = digits ++ rest ∧ Digits digits ∧ NoDigitAhead rest := by
  induction text with
  | nil => exact .inl noDigitAhead_nil
  | cons ch text ih =>
    by_cases hdigit : Chars.isDigit ch = true
    · have hone : Digits [ch] := ⟨List.cons_ne_nil _ _, by simpa using hdigit⟩
      rcases ih with hnone | ⟨digits, rest, rfl, hdigits, hrest⟩
      · exact .inr ⟨[ch], text, rfl, hone, hnone⟩
      · exact .inr ⟨ch :: digits, rest, rfl, hone.append hdigits, hrest⟩
    · refine .inl ?_
      rintro _ ⟨⟩
      exact hdigit

end Text

/-! ### Taking and refusing -/

namespace Matcher

variable {σ : Type} {m p q : Matcher σ} {c d : Cursor} {s : σ} {v w : Value}
  {between first second : List Char} {committed : Bool}

/-- At the cursor the matcher takes these characters for this value, and leaves no trace. -/
def Takes (m : Matcher σ) (c : Cursor) (s : σ) (between : List Char) (v : Value) : Prop :=
  ∃ d, c.Passes between d ∧ m c s = some (.success v d, s)

/-- What is read in front of a rest is taken where the two stand. -/
theorem Reads.takes {rest : List Char} (hm : m.Reads s between rest v)
    (hc : c.rest = between ++ rest) : m.Takes c s between v :=
  ⟨_, .of_starts ⟨rest, hc.symm⟩, hm c hc⟩

namespace Takes

theorem and (hp : p.Takes c s first v) (hq : ∀ d, c.Passes first d → q.Takes d s second w) :
    (p.and q).Takes c s (first ++ second) (.pair v w) := by
  obtain ⟨d, hd, hrun⟩ := hp
  obtain ⟨e, he, hrun'⟩ := hq d hd
  exact ⟨e, hd.trans he, and_of_success hrun hrun'⟩

theorem map (f : Value → Value) (hm : m.Takes c s between v) :
    (m.map f).Takes c s between (f v) := by
  obtain ⟨d, hd, hrun⟩ := hm
  exact ⟨d, hd, map_of_success f hrun⟩

theorem text (hm : m.Takes c s between v) :
    m.text.Takes c s between (.str (String.ofList between)) := by
  obtain ⟨d, hd, hrun⟩ := hm
  have htext := text_of_success hrun
  rw [hd.sliceTo_eq] at htext
  exact ⟨d, hd, htext⟩

theorem named (label : String) (hm : m.Takes c s between v) :
    (m.named label).Takes c s between v := by
  obtain ⟨d, hd, hrun⟩ := hm
  exact ⟨d, hd, named_of_success hrun⟩

theorem optional (committed : Bool) (hm : m.Takes c s between v) :
    (m.optional committed).Takes c s between (.present v) := by
  obtain ⟨d, hd, hrun⟩ := hm
  exact ⟨d, hd, handle_of_success hrun⟩

/-- A first branch that takes something is the choice. -/
theorem choice (hp : p.Takes c s between v) (hne : between ≠ []) :
    (Matcher.choice committed p q).Takes c s between v := by
  obtain ⟨d, hd, hrun⟩ := hp
  refine ⟨d, hd, choice_of_decides hrun ?_⟩
  simpa [Reply.decides] using hd.not_sameSpot hne

end Takes

namespace Refuses

theorem optional (committed : Bool) (hm : m.Refuses c s) :
    (m.optional committed).Takes c s [] .absent := by
  obtain ⟨f, hrun, hf⟩ := hm
  refine ⟨c, .refl c, ?_⟩
  rw [Matcher.optional, handle_of_failure hrun, hf, Bool.and_false, if_neg Bool.false_ne_true]
  rfl

theorem choice (hp : p.Refuses c s) (hq : q.Takes c s between v) :
    (Matcher.choice committed p q).Takes c s between v := by
  obtain ⟨f, hrun, hf⟩ := hp
  obtain ⟨d, hd, hrun'⟩ := hq
  refine ⟨d, hd, choice_of_not_decides hrun ?_ hrun'⟩
  rw [Reply.decides, hf, Bool.and_false]

end Refuses

/-! ### What can be taken -/

/-- At each cursor the matcher takes some characters for some value that are related, or
    fails; either way it leaves no trace. -/
def Yields (R : List Char → Value → Prop) (m : Matcher σ) : Prop :=
  ∀ c s, (∃ between v, m.Takes c s between v ∧ R between v) ∨
    ∃ f, m c s = some (.failure f, s)

namespace Yields

variable {R R₁ R₂ : List Char → Value → Prop}

theorem mono (hm : m.Yields R₁) (himp : ∀ between v, R₁ between v → R₂ between v) :
    m.Yields R₂ := by
  intro c s
  rcases hm c s with ⟨between, v, htakes, hv⟩ | hfails
  · exact .inl ⟨between, v, htakes, himp between v hv⟩
  · exact .inr hfails

theorem and (hp : p.Yields R₁) (hq : q.Yields R₂) :
    (p.and q).Yields fun between v =>
      ∃ first second x y, between = first ++ second ∧ v = .pair x y ∧ R₁ first x ∧ R₂ second y := by
  intro c s
  rcases hp c s with ⟨first, x, ⟨d, hd, hrun⟩, hx⟩ | ⟨f, hrun⟩
  · rcases hq d s with ⟨second, y, ⟨e, he, hrun'⟩, hy⟩ | ⟨f, hrun'⟩
    · refine .inl ⟨first ++ second, .pair x y, ?_, first, second, x, y, rfl, rfl, hx, hy⟩
      exact ⟨e, hd.trans he, and_of_success hrun hrun'⟩
    · exact .inr ⟨f, and_of_second_failure hrun hrun'⟩
  · exact .inr ⟨f, and_of_failure hrun⟩

theorem text (hm : m.Yields R) :
    m.text.Yields fun between v => v = .str (String.ofList between) ∧ ∃ x, R between x := by
  intro c s
  rcases hm c s with ⟨between, x, htakes, hx⟩ | ⟨f, hrun⟩
  · exact .inl ⟨between, _, htakes.text, rfl, x, hx⟩
  · exact .inr ⟨f, text_of_failure hrun⟩

theorem named (label : String) (hm : m.Yields R) : (m.named label).Yields R := by
  intro c s
  rcases hm c s with ⟨between, v, htakes, hv⟩ | ⟨f, hrun⟩
  · exact .inl ⟨between, v, htakes.named label, hv⟩
  · exact .inr ⟨_, named_of_failure label hrun⟩

theorem optional (committed : Bool) (hm : m.Yields R) :
    (m.optional committed).Yields fun between v =>
      between = [] ∧ v = .absent ∨ ∃ x, v = .present x ∧ R between x := by
  intro c s
  rcases hm c s with ⟨between, x, htakes, hx⟩ | ⟨f, hrun⟩
  · exact .inl ⟨between, .present x, htakes.optional committed, .inr ⟨x, rfl, hx⟩⟩
  · have hrun' : m.optional committed c s = if committed && f.consumedFrom c then fail f s
        else succeed .absent c s := handle_of_failure hrun
    by_cases hstop : (committed && f.consumedFrom c) = true
    · rw [if_pos hstop] at hrun'
      exact .inr ⟨f, hrun'⟩
    · rw [if_neg hstop] at hrun'
      exact .inl ⟨[], .absent, ⟨c, .refl c, hrun'⟩, .inl ⟨rfl, rfl⟩⟩

theorem choice (hp : p.Yields R) (hq : q.Yields R) :
    (Matcher.choice committed p q).Yields R := by
  intro c s
  -- What the choice takes is what one of its branches takes.
  rcases hp c s with ⟨between, v, ⟨d, hd, hrun⟩, hv⟩ | ⟨f, hrun⟩
  · rcases hdecides : (Reply.success v d).decides committed c with _ | _
    · rcases hq c s with ⟨between', w, ⟨e, he, hrun'⟩, hw⟩ | ⟨g, hrun'⟩
      · exact .inl ⟨between', w, ⟨e, he, choice_of_not_decides hrun hdecides hrun'⟩, hw⟩
      · exact .inl ⟨between, v, ⟨d, hd, choice_of_not_decides hrun hdecides hrun'⟩, hv⟩
    · exact .inl ⟨between, v, ⟨d, hd, choice_of_decides hrun hdecides⟩, hv⟩
  · rcases hdecides : (Reply.failure f).decides committed c with _ | _
    · rcases hq c s with ⟨between, w, ⟨e, he, hrun'⟩, hw⟩ | ⟨g, hrun'⟩
      · exact .inl ⟨between, w, ⟨e, he, choice_of_not_decides hrun hdecides hrun'⟩, hw⟩
      · exact .inr ⟨f.furthest g, choice_of_not_decides hrun hdecides hrun'⟩
    · exact .inr ⟨f, choice_of_decides hrun hdecides⟩

end Yields

end Matcher

/-! ### Numbers and decimals -/

namespace Parser

variable {σ : Type} [Traced σ] {call : Handle → Matcher σ} {c : Cursor} {s : σ}
  {separator : String} {text digits more rest : List Char} {p : Parser} {v : Value}
  {R : List Char → Value → Prop}

theorem string_takes {literal : String} (h : literal.toList <+: c.rest) :
    ((Parser.string literal).matcher call).Takes c s literal.toList (.str literal) :=
  ⟨_, .of_starts h, string_of_starts call s h⟩

theorem string_yields (call : Handle → Matcher σ) (literal : String) :
    ((Parser.string literal).matcher call).Yields fun between v =>
      between = literal.toList ∧ v = .str literal := by
  intro c s
  by_cases hstarts : literal.toList <+: c.rest
  · exact .inl ⟨_, _, string_takes hstarts, rfl, rfl⟩
  · exact .inr (string_of_not_starts call s hstarts)

theorem number_takes (hrest : c.rest = digits ++ rest) (hdigits : Text.Digits digits)
    (hstop : Text.NoDigitAhead rest) :
    (number.matcher call).Takes c s digits (.str (String.ofList digits)) :=
  (number_reads hdigits hstop).takes hrest

theorem number_yields (call : Handle → Matcher σ) :
    (number.matcher call).Yields fun between v =>
      Text.Digits between ∧ v = .str (String.ofList between) := by
  intro c s
  rcases Text.noDigitAhead_or_digits c.rest with hnone | ⟨digits, rest, hrest, hdigits, hstop⟩
  · have hrefuses : (number.matcher call).Refuses c s := number_refuses hnone
    obtain ⟨f, hrun, -⟩ := hrefuses
    exact .inr ⟨f, hrun⟩
  · exact .inl ⟨digits, _, number_takes hrest hdigits hstop, hdigits, rfl⟩

/-- What stands behind the whole digits of a decimal. -/
theorem fraction_takes (hrest : c.rest = separator.toList ++ more) (hmore : Text.Digits more) :
    ((Parser.and (.string separator) number).matcher call).Takes c s (separator.toList ++ more)
      (.pair (.str separator) (.str (String.ofList more))) := by
  apply Matcher.Takes.and (string_takes ⟨more, hrest.symm⟩)
  intro d hd
  have hrest' : d.rest = more ++ [] := by
    rw [List.append_nil]
    exact hd.rest_of_append hrest
  exact number_takes hrest' hmore Text.noDigitAhead_nil

/-- Where the text ends there is no fraction, be the separator empty or not. -/
theorem fraction_refuses (hrest : c.rest = []) :
    ((Parser.and (.string separator) number).matcher call).Refuses c s := by
  by_cases hstarts : separator.toList <+: c.rest
  · have hread := string_of_starts call s hstarts
    rw [hrest, List.prefix_nil] at hstarts
    rw [hstarts] at hread
    have hnone : Text.NoDigitAhead c.rest := by
      rw [hrest]
      exact Text.noDigitAhead_nil
    exact Matcher.Refuses.and_second hread (number_refuses hnone)
  · have hread := string_of_atEnd call s hrest hstarts
    exact (Matcher.Refuses.here hread).and

theorem decimal_takes_digits (h : Text.Digits c.rest) :
    ((decimal separator).matcher call).Takes c s c.rest (.str (String.ofList c.rest)) := by
  have hwhole : (number.matcher call).Takes c s c.rest (.str (String.ofList c.rest)) :=
    number_takes (List.append_nil _).symm h Text.noDigitAhead_nil
  have hnone : ∀ d, c.Passes c.rest d →
      ((Parser.optional true (.and (.string separator) number)).matcher call).Takes d s []
        .absent := by
    intro d hd
    have hrest : d.rest = [] := hd.rest_of_append (List.append_nil _).symm
    exact (fraction_refuses hrest).optional true
  have hboth := (hwhole.and hnone).text
  rw [List.append_nil] at hboth
  exact (hboth.choice h.nonempty).named "decimal"

/-- **A decimal is taken as a whole.** -/
theorem decimal_takes (hsep : Text.NoDigitAhead separator.toList)
    (h : Text.Decimal separator.toList text) (hrest : c.rest = text) :
    ((decimal separator).matcher call).Takes c s text (.str (String.ofList text)) := by
  by_cases hnil : separator.toList = []
  · -- The first number takes the digits of both parts, and the fraction is missing.
    rw [hnil] at h
    subst hrest
    exact decimal_takes_digits h.digits_of_nil
  cases h with
  | whole h =>
    subst hrest
    exact decimal_takes_digits h
  | @mixed digits more h hmore =>
    have hwhole : (number.matcher call).Takes c s digits (.str (String.ofList digits)) :=
      number_takes hrest h (hsep.append hnil)
    have hfraction : ∀ d, c.Passes digits d →
        ((Parser.optional true (.and (.string separator) number)).matcher call).Takes d s
          (separator.toList ++ more)
          (.present (.pair (.str separator) (.str (String.ofList more)))) := by
      intro d hd
      exact (fraction_takes (hd.rest_of_append hrest) hmore).optional true
    have hne := List.append_ne_nil_of_left_ne_nil h.nonempty (separator.toList ++ more)
    exact ((hwhole.and hfraction).text.choice hne).named "decimal"
  | @fraction more h =>
    have hnone : Text.NoDigitAhead c.rest := by
      rw [hrest]
      exact hsep.append hnil
    have hnumber : (number.matcher call).Refuses c s := number_refuses hnone
    have hfraction : ((Parser.and (.string separator) number).matcher call).Takes c s
        (separator.toList ++ more) _ := fraction_takes hrest h
    exact (hnumber.and.text.choice hfraction.text).named "decimal"

/-- **Nothing but decimals is taken**, whatever the separator. -/
theorem decimal_yields (call : Handle → Matcher σ) (separator : String) :
    ((decimal separator).matcher call).Yields fun between v =>
      Text.Decimal separator.toList between ∧ v = .str (String.ofList between) := by
  have hfraction := (string_yields call separator).and (number_yields call)
  have hboth := ((number_yields call).and (hfraction.optional true)).text
  refine .named "decimal" (.choice (hboth.mono ?_) (hfraction.text.mono ?_))
  · rintro between v ⟨rfl, _, digits, _, _, _, rfl, -, ⟨hdigits, -⟩, hrest⟩
    refine ⟨?_, rfl⟩
    rcases hrest with ⟨rfl, -⟩ | ⟨_, -, _, more, _, _, rfl, -, ⟨rfl, -⟩, hmore, -⟩
    · rw [List.append_nil]
      exact .whole hdigits
    · exact .mixed hdigits hmore
  · rintro between v ⟨rfl, _, _, more, _, _, rfl, -, ⟨rfl, -⟩, hmore, -⟩
    exact ⟨.fraction hmore, rfl⟩

/-! ### Whole texts -/

theorem matcher_endOfInput (call : Handle → Matcher σ) (c : Cursor) (s : σ) :
    endOfInput.matcher call c s = some (Matcher.conclude c (Scanner.endOfInput c.rest), s) := rfl

theorem endOfInput_of_atEnd (call : Handle → Matcher σ) (s : σ) (hrest : c.rest = []) :
    endOfInput.matcher call c s = some (.success .unit c, s) := by
  rw [matcher_endOfInput, hrest]
  rfl

theorem endOfInput_of_rest (call : Handle → Matcher σ) (s : σ) (hrest : c.rest ≠ []) :
    ∃ f, endOfInput.matcher call c s = some (.failure f, s) := by
  obtain ⟨ch, rest, hrest⟩ := List.exists_cons_of_ne_nil hrest
  rw [matcher_endOfInput, hrest]
  exact ⟨_, rfl⟩

theorem complete_takes (h : (p.matcher call).Takes c s c.rest v) :
    (p.complete.matcher call).Takes c s c.rest v := by
  have hend : ∀ d, c.Passes c.rest d → (endOfInput.matcher call).Takes d s [] .unit := by
    intro d hd
    have hrest : d.rest = [] := hd.rest_of_append (List.append_nil _).symm
    exact ⟨d, .refl d, endOfInput_of_atEnd call s hrest⟩
  have hboth := (h.and hend).map Value.first
  rw [List.append_nil] at hboth
  exact hboth

/-- A parser for whole texts takes the text, or it fails. -/
theorem complete_yields (h : (p.matcher call).Yields R) (c : Cursor) (s : σ) :
    (∃ v, (p.complete.matcher call).Takes c s c.rest v ∧ R c.rest v) ∨
      ∃ f, p.complete.matcher call c s = some (.failure f, s) := by
  rcases h c s with ⟨between, v, ⟨d, hd, hrun⟩, hv⟩ | ⟨f, hrun⟩
  · by_cases hrest : d.rest = []
    · obtain rfl : c.rest = between := by rw [hd.rest_eq, hrest, List.append_nil]
      exact .inl ⟨v, complete_takes ⟨d, hd, hrun⟩, hv⟩
    · obtain ⟨f, hend⟩ := endOfInput_of_rest call s hrest
      exact .inr ⟨f, Matcher.map_of_failure _ (Matcher.and_of_second_failure hrun hend)⟩
  · exact .inr ⟨f, Matcher.map_of_failure _ (Matcher.and_of_failure hrun)⟩

end Parser

namespace World

variable {p : Parser} {text : List Char} {v : Value} {R : List Char → Value → Prop} {w : World}

theorem parse_of_takes (h : ∀ n u, (p.matcher (call n)).Takes (.start text) u text v) :
    ∃ w', w.parse p text = some (.ok v, w') := by
  let u := ({ w with guard := .empty } : World).bindGuard text
  have htakes := h (u.depthLimit (.start text)) u
  obtain ⟨d, -, hrun⟩ := Parser.complete_takes (c := .start text) htakes
  refine ⟨u, ?_⟩
  rw [parse, parseLeading, runAfresh, run, hrun]

theorem parse_of_reads (h : ∀ n u, (p.matcher (call n)).Reads u text [] v) :
    ∃ w', w.parse p text = some (.ok v, w') :=
  parse_of_takes fun n u => (h n u).takes (List.append_nil text).symm

/-- A parser that yields comes back from each text, with a value for the whole text or with
    an error. -/
theorem parse_of_yields (h : ∀ n, (p.matcher (call n)).Yields R) :
    (∃ v w', w.parse p text = some (.ok v, w') ∧ R text v) ∨
      ∃ e w', w.parse p text = some (.error e, w') := by
  let u := ({ w with guard := .empty } : World).bindGuard text
  rcases Parser.complete_yields (h (u.depthLimit (.start text))) (.start text) u with
    ⟨v, ⟨d, -, hrun⟩, hv⟩ | ⟨f, hrun⟩
  · refine .inl ⟨v, u, ?_, hv⟩
    rw [parse, parseLeading, runAfresh, run, hrun]
  · refine .inr ⟨f.toError, u.note (.refused f.render), ?_⟩
    rw [parse, parseLeading, runAfresh, run, hrun]

/-- **Decimals are accepted, and nothing else.**  With a separator that does not start with a
    digit, the parser for decimals accepts a text exactly if it is digits, or digits with the
    separator between or before them, and the value is the text; from every other text it
    comes back with an error. -/
theorem decimals_accepted (separator : String) (hsep : Text.NoDigitAhead separator.toList)
    (text : List Char) (w : World) :
    (Text.Decimal separator.toList text →
      ∃ w', w.parse (.decimal separator) text = some (.ok (.str (String.ofList text)), w')) ∧
    (¬ Text.Decimal separator.toList text →
      ∃ e w', w.parse (.decimal separator) text = some (.error e, w')) := by
  constructor
  · intro h
    apply parse_of_takes
    intro n u
    exact Parser.decimal_takes hsep h rfl
  · intro hnone
    rcases parse_of_yields (fun n => Parser.decimal_yields (call n) separator) with
      ⟨v, w', hrun, hdecimal, -⟩ | ⟨e, w', hrun⟩
    · exact absurd hdecimal hnone
    · exact ⟨e, w', hrun⟩

/-- A separator of which only the first character stands between the digits. -/
theorem decimals_accepted_colons :
    Text.NoDigitAhead "::".toList ∧
    (∃ w', empty.parse (.decimal "::") ['1', ':', ':', '2', '5'] = some (.ok (.str "1::25"), w')) ∧
    ∃ e w', empty.parse (.decimal "::") ['1', ':', '2', '5'] = some (.error e, w') := by
  have hsep : Text.NoDigitAhead "::".toList := by
    rintro _ ⟨⟩
    decide
  obtain ⟨haccepted, -⟩ := decimals_accepted "::" hsep ['1', ':', ':', '2', '5'] empty
  obtain ⟨-, hrefused⟩ := decimals_accepted "::" hsep ['1', ':', '2', '5'] empty
  have hone : Text.Digits ['1'] := ⟨by decide, List.all_eq_true.mp rfl⟩
  have hmore : Text.Digits ['2', '5'] := ⟨by decide, List.all_eq_true.mp rfl⟩
  refine ⟨hsep, haccepted (.mixed hone hmore), hrefused ?_⟩
  intro h
  rcases h.digits_or_infix with hdigits | hinfix
  · exact absurd (hdigits.all ':' (by decide)) (by decide)
  · exact absurd hinfix (by simp [List.infix_cons_iff])

end World

end Descent
