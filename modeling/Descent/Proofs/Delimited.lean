/-
  Descent/Proofs/Delimited.lean
  =============================
  **Delimited numbers** — from a list to its text and back.

  A list of numbers that the parser has read says all about the text: the numbers with the
  delimiter between them are the text again.  Here a delimiter may be anything.  Each round
  of the repetition takes a delimiter and a number, and nothing of a round that fails is
  kept (`Matcher.Yields.many`).

  The other way round the delimiter has to show where a number ends.  It does if it is not
  empty and does not start with a digit, and what follows that is of no importance.
-/
import Descent.Proofs.Decimals

namespace Descent

def Value.texts (items : List (List Char)) : Value :=
  .list (items.map fun item => .str (String.ofList item))

inductive Text.Each (R : List Char → Value → Prop) : List Char → List Value → Prop
  | nil : Each R [] []
  | cons {first more : List Char} {v : Value} {vs : List Value} (hfirst : R first v)
    (hmore : Each R more vs) : Each R (first ++ more) (v :: vs)

namespace Matcher.Yields

variable {σ : Type} {m : Matcher σ} {c : Cursor} {s : σ} {R : List Char → Value → Prop}

theorem map (f : Value → Value) (hm : m.Yields R) :
    (m.map f).Yields fun between v => ∃ x, v = f x ∧ R between x := by
  intro c s
  rcases hm c s with ⟨between, x, htakes, hx⟩ | ⟨g, hrun⟩
  · exact .inl ⟨between, f x, htakes.map f, x, rfl, hx⟩
  · exact .inr ⟨g, map_of_failure f hrun⟩

theorem gather (committed : Bool) (hm : m.Yields R) (hne : ∀ between v, R between v → between ≠ [])
    (fuel : Nat) (found : List Value) (hfuel : c.rest.length < fuel) :
    (∃ between vs, (Matcher.gather committed m fuel found).Takes c s between
      (.list (found.reverse ++ vs)) ∧ Text.Each R between vs) ∨
    ∃ f, Matcher.gather committed m fuel found c s = some (.failure f, s) := by
  induction fuel generalizing c found with
  | zero => exact absurd hfuel (Nat.not_lt_zero _)
  | succ fuel ih =>
    rcases hm c s with ⟨first, v, ⟨d, hd, hrun⟩, hv⟩ | ⟨f, hrun⟩
    · have hfirst : first ≠ [] := hne first v hv
      have hless : d.rest.length < fuel := by
        have hlength := congrArg List.length hd.rest_eq
        have hpos : 0 < first.length := List.length_pos_of_ne_nil hfirst
        rw [List.length_append] at hlength
        omega
      have hround : Matcher.gather committed m (fuel + 1) found c s =
          Matcher.gather committed m fuel (v :: found) d s := by
        rw [Matcher.gather, handle_of_success hrun, if_neg (hd.not_sameSpot hfirst)]
      rcases ih (v :: found) hless with ⟨more, vs, ⟨e, he, hrest⟩, hvs⟩ | ⟨f, hrest⟩
      · refine .inl ⟨first ++ more, v :: vs, ⟨e, hd.trans he, ?_⟩, .cons hv hvs⟩
        rw [hround, hrest, List.reverse_cons, List.append_assoc]
        rfl
      · exact .inr ⟨f, hround.trans hrest⟩
    · by_cases hcut : (committed && f.consumedFrom c) = true
      · refine .inr ⟨f, ?_⟩
        rw [Matcher.gather, handle_of_failure hrun, if_pos hcut]
        rfl
      · refine .inl ⟨[], [], ⟨c, .refl c, ?_⟩, .nil⟩
        rw [Matcher.gather, handle_of_failure hrun, if_neg hcut, List.append_nil]
        rfl

/-- What a repetition takes is what its rounds take, where each of them takes something. -/
theorem many (committed : Bool) (hm : m.Yields R) (hne : ∀ between v, R between v → between ≠ []) :
    (m.many committed).Yields fun between v => ∃ vs, v = .list vs ∧ Text.Each R between vs := by
  intro c s
  rcases hm.gather committed hne (c.rest.length + 1) [] (Nat.lt_succ_self _) with
    ⟨between, vs, htakes, hvs⟩ | hfails
  · exact .inl ⟨between, .list vs, htakes, vs, rfl, hvs⟩
  · exact .inr hfails

end Matcher.Yields

namespace Parser

variable {σ : Type} [Traced σ] {call : Handle → Matcher σ} {s : σ} {committed : Bool}
  {delimiter : String} {text : List Char} {vs : List Value}

/-- What is taken by a round behind the first number. -/
def DelimitedNumber (delimiter : String) (between : List Char) (v : Value) : Prop :=
  ∃ digits, Text.Digits digits ∧ between = delimiter.toList ++ digits ∧
    v = .pair (.str delimiter) (.str (String.ofList digits))

theorem numbers_of_each (h : Text.Each (DelimitedNumber delimiter) text vs) :
    ∃ items : List (List Char), (∀ item ∈ items, Text.Digits item) ∧
      text = items.flatMap (delimiter.toList ++ ·) ∧
      vs.map Value.second = items.map fun item => .str (String.ofList item) := by
  induction h with
  | nil => exact ⟨[], List.forall_mem_nil _, rfl, rfl⟩
  | cons hfirst _ ih =>
    obtain ⟨digits, hdigits, rfl, rfl⟩ := hfirst
    obtain ⟨items, hitems, rfl, hvalues⟩ := ih
    refine ⟨digits :: items, List.forall_mem_cons.mpr ⟨hdigits, hitems⟩, rfl, ?_⟩
    rw [List.map_cons, hvalues]
    rfl

theorem delimited_numbers_yields (call : Handle → Matcher σ) (committed : Bool)
    (delimiter : String) :
    ((delimited committed number (.string delimiter)).matcher call).Yields fun between v =>
      ∃ items, items ≠ [] ∧ (∀ item ∈ items, Text.Digits item) ∧ v = .texts items ∧
        delimiter.toList.intercalate items = between := by
  have hround : ((Parser.and (.string delimiter) number).matcher call).Yields
      (DelimitedNumber delimiter) := by
    apply ((string_yields call delimiter).and (number_yields call)).mono
    rintro _ _ ⟨_, digits, _, _, rfl, rfl, ⟨rfl, rfl⟩, hdigits, rfl⟩
    exact ⟨digits, hdigits, rfl, rfl⟩
  have hne : ∀ between v, DelimitedNumber delimiter between v → between ≠ [] := by
    rintro _ _ ⟨digits, hdigits, rfl, rfl⟩
    exact List.append_ne_nil_of_right_ne_nil _ hdigits.nonempty
  have hboth := (number_yields call).and (hround.many committed hne)
  apply (hboth.map Value.consSeconds).mono
  rintro _ _ ⟨_, rfl, digits, _, _, _, rfl, rfl, ⟨hdigits, rfl⟩, vs, rfl, hvs⟩
  obtain ⟨items, hitems, rfl, hvalues⟩ := numbers_of_each hvs
  refine ⟨digits :: items, List.cons_ne_nil _ _, List.forall_mem_cons.mpr ⟨hdigits, hitems⟩, ?_,
    Text.intercalate_cons _ _ _⟩
  rw [Value.consSeconds, Value.items, hvalues]
  rfl

/-- Digits end where the text does and in front of a delimiter that does not start with one. -/
theorem delimits_numbers (call : Handle → Matcher σ) (s : σ) (hne : delimiter.toList ≠ [])
    (hstart : Text.NoDigitAhead delimiter.toList) :
    Delimits call s number (.string delimiter) delimiter.toList (.str delimiter)
      (fun item v => Text.Digits item ∧ v = .str (String.ofList item)) Text.NoDigitAhead where
  nonempty := hne
  reads_mark rest := string_reads call s delimiter rest
  reads_item := by
    rintro item _ rest ⟨hdigits, rfl⟩ hstop
    exact number_reads hdigits hstop
  stops more := hstart.append hne

end Parser

namespace World

/-- **Delimited numbers are read back.**  If the parser for numbers with a delimiter between
    them, committed or not, accepts a text, then its value is a list of numbers, at least one,
    and they are the text again when the delimiter is put between them.  If the delimiter
    shows where a number ends, each such list comes back from the text that is made of it. -/
theorem numbers_read_back (committed : Bool) (delimiter : String) (w : World) :
    let p := Parser.delimited committed .number (.string delimiter)
    (∀ text v w', w.parse p text = some (.ok v, w') →
      ∃ items, items ≠ [] ∧ (∀ item ∈ items, Text.Digits item) ∧ v = .texts items ∧
        delimiter.toList.intercalate items = text) ∧
    (delimiter.toList ≠ [] → Text.NoDigitAhead delimiter.toList →
      ∀ items, items ≠ [] → (∀ item ∈ items, Text.Digits item) →
        ∃ w', w.parse p (delimiter.toList.intercalate items) = some (.ok (.texts items), w')) := by
  intro p
  constructor
  · intro text v w' hparse
    rcases parse_of_yields fun n =>
        Parser.delimited_numbers_yields (call n) committed delimiter with
      ⟨v', w₁, hrun, hitems⟩ | ⟨e, w₁, hrun⟩
    · rw [hparse] at hrun
      cases hrun
      exact hitems
    · rw [hparse] at hrun
      cases hrun
  · intro hne hstart items hitems hdigits
    apply parse_of_reads
    intro n u
    refine (Parser.delimits_numbers (call n) u hne hstart).reads committed Text.noDigitAhead_nil
      (Parser.string_declines_nil hne) ?_ hitems
    rw [List.forall₂_map_right_iff, List.forall₂_same]
    exact fun item hitem => ⟨hdigits item hitem, rfl⟩

/-- The delimiter ends with a digit, which is not part of the number behind it. -/
theorem numbers_read_back_odd_delimiter :
    let p := Parser.delimited true .number (.string "::0")
    ∃ w', empty.parse p ['4', ':', ':', '0', '0', '7'] =
        some (.ok (.texts [['4'], ['0', '7']]), w') ∧
      ∃ items, items ≠ [] ∧ (∀ item ∈ items, Text.Digits item) ∧
        "::0".toList.intercalate items = ['4', ':', ':', '0', '0', '7'] := by
  intro p
  obtain ⟨haccepted, hread⟩ := numbers_read_back true "::0" empty
  have hstart : Text.NoDigitAhead "::0".toList := by
    rintro _ ⟨⟩
    decide
  have hfour : Text.Digits ['4'] := ⟨by decide, List.all_eq_true.mp rfl⟩
  have hseven : Text.Digits ['0', '7'] := ⟨by decide, List.all_eq_true.mp rfl⟩
  have hdigits : ∀ item ∈ [['4'], ['0', '7']], Text.Digits item := by
    simp [hfour, hseven]
  obtain ⟨w', hparse⟩ := hread (by decide) hstart [['4'], ['0', '7']] (by decide) hdigits
  obtain ⟨items, hne, hitems, -, htext⟩ := haccepted _ _ _ hparse
  exact ⟨w', hparse, items, hne, hitems, htext⟩

end World

end Descent
