/-
  Descent/Proofs/Reading.lean
  ===========================
  **Reading a text** — matchers that take what was written for them.

  A text is put together from parts, and each part is read by a matcher of its own.  That
  the matcher takes its part, all of it and no more, depends on what stands behind: digits
  are taken as long as there are any.  So a matcher reads a text in front of a rest
  (`Matcher.Reads`), and two parts are read one after the other if the first one is read in
  front of the second and the rest.

  A repetition reads in rounds (`Matcher.Rounds`).  What ends it is no business of theirs:
  a failure or a success that consumes nothing will do (`Matcher.Halts`).  So rounds can be
  added at either end.
-/
import Descent.Proofs.Chains
import Descent.Proofs.Terminator

namespace Descent

/-! ### Digits -/

namespace Text

variable {text more : List Char}

structure Digits (text : List Char) : Prop where
  nonempty : text ≠ []
  all : ∀ ch ∈ text, Chars.isDigit ch = true

def NoDigitAhead (text : List Char) : Prop := ∀ ch ∈ text.head?, ¬ Chars.isDigit ch = true

theorem Digits.append (h : Digits text) (hmore : Digits more) : Digits (text ++ more) where
  nonempty := List.append_ne_nil_of_left_ne_nil h.nonempty more
  all ch hch := (List.mem_append.mp hch).elim (h.all ch) (hmore.all ch)

theorem noDigitAhead_nil : NoDigitAhead [] := fun _ hch => nomatch hch

theorem NoDigitAhead.append (h : NoDigitAhead text) (hne : text ≠ []) :
    NoDigitAhead (text ++ more) := by
  obtain ⟨ch, rest, rfl⟩ := List.exists_cons_of_ne_nil hne
  exact h

end Text

/-! ### Blanks -/

namespace Text

variable {text more : List Char}

def Blank (text : List Char) : Prop := ∀ ch ∈ text, Chars.isSpace ch = true

def NoBlankAhead (text : List Char) : Prop := ∀ ch ∈ text.head?, ¬ Chars.isSpace ch = true

theorem NoBlankAhead.append (h : NoBlankAhead text) (hne : text ≠ []) :
    NoBlankAhead (text ++ more) := by
  obtain ⟨ch, rest, rfl⟩ := List.exists_cons_of_ne_nil hne
  exact h

theorem not_isSpace_of_isDigit {ch : Char} (h : Chars.isDigit ch = true) :
    ¬ Chars.isSpace ch = true := by
  simp only [Chars.isDigit, Bool.and_eq_true, decide_eq_true_eq] at h
  simp only [Chars.isSpace, Chars.covers, Chars.spaceRuns, Chars.Run.contains, List.any_cons,
    List.any_nil, Bool.or_eq_true, Bool.and_eq_true, decide_eq_true_eq, beq_iff_eq,
    Bool.false_eq_true, or_false]
  omega

theorem Digits.noBlankAhead (h : Digits text) : NoBlankAhead text :=
  fun ch hch => not_isSpace_of_isDigit (h.all ch (List.mem_of_mem_head? hch))

end Text

theorem Cursor.rest_skip_of_append {c : Cursor} {text rest : List Char}
    (hc : c.rest = text ++ rest) : (c.skip text.length).rest = rest := by
  rw [Cursor.rest_skip, hc, List.drop_left]

namespace Matcher

variable {σ : Type} {m p q : Matcher σ} {c : Cursor} {s : σ} {v w : Value} {vs : List Value}
  {taken first second more rest : List Char} {committed : Bool}

/-! ### Failures -/

theorem named_of_success {label : String} {d : Cursor} (hm : m c s = some (.success v d, s)) :
    m.named label c s = some (.success v d, s) :=
  handle_of_success hm

theorem named_of_failure (label : String) {f : Failure} (hm : m c s = some (.failure f, s)) :
    m.named label c s =
      some (.failure (if f.consumedFrom c then f else f.relabel label), s) :=
  handle_of_failure hm

theorem text_of_failure {f : Failure} (hm : m c s = some (.failure f, s)) :
    m.text c s = some (.failure f, s) :=
  handle_of_failure hm

theorem filter_of_success {keep : Value → Bool} {message : String} {d : Cursor}
    (hm : m c s = some (.success v d, s)) (hkeep : keep v = true) :
    m.filter keep message c s = some (.success v d, s) := by
  rw [filter, handle_of_success hm, if_pos hkeep]
  rfl

/-- At the cursor the matcher fails without having consumed anything. -/
def Refuses (m : Matcher σ) (c : Cursor) (s : σ) : Prop :=
  ∃ f, m c s = some (.failure f, s) ∧ f.consumedFrom c = false

namespace Refuses

theorem here {message : String} {labels : List String}
    (hm : m c s = some (.failure (.of c message labels), s)) : m.Refuses c s :=
  ⟨_, hm, by simp [Failure.of, Failure.consumedFrom, Cursor.sameSpot]⟩

theorem and (hp : p.Refuses c s) : (p.and q).Refuses c s := by
  obtain ⟨f, hrun, hf⟩ := hp
  exact ⟨f, and_of_failure hrun, hf⟩

/-- What fails behind a matcher that took nothing has consumed nothing. -/
theorem and_second (hp : p c s = some (.success v c, s)) (hq : q.Refuses c s) :
    (p.and q).Refuses c s := by
  obtain ⟨f, hrun, hf⟩ := hq
  exact ⟨f, and_of_second_failure hp hrun, hf⟩

theorem map (f : Value → Value) (hm : m.Refuses c s) : (m.map f).Refuses c s := by
  obtain ⟨g, hrun, hg⟩ := hm
  exact ⟨g, map_of_failure f hrun, hg⟩

theorem text (hm : m.Refuses c s) : m.text.Refuses c s := by
  obtain ⟨f, hrun, hf⟩ := hm
  exact ⟨f, text_of_failure hrun, hf⟩

theorem filter (keep : Value → Bool) (message : String) (hm : m.Refuses c s) :
    (m.filter keep message).Refuses c s := by
  obtain ⟨f, hrun, hf⟩ := hm
  exact ⟨f, handle_of_failure hrun, hf⟩

theorem named (label : String) (hm : m.Refuses c s) : (m.named label).Refuses c s := by
  obtain ⟨f, hrun, hf⟩ := hm
  have hnamed := named_of_failure label hrun
  rw [hf, if_neg Bool.false_ne_true] at hnamed
  exact ⟨f.relabel label, hnamed, hf⟩

theorem either (hp : p.Refuses c s) (hq : q.Refuses c s) :
    (Matcher.choice committed p q).Refuses c s := by
  obtain ⟨f, hrun, hf⟩ := hp
  obtain ⟨g, hrun', hg⟩ := hq
  have hdecides : (Reply.failure f).decides committed c = false := by
    rw [Reply.decides, hf, Bool.and_false]
  refine ⟨f.furthest g, choice_of_not_decides hrun hdecides hrun', ?_⟩
  rw [Failure.furthest]
  split
  · exact hg
  · exact hf
  · exact hf

end Refuses

/-! ### Texts in front of a rest -/

/-- Where these characters and then the rest stand, the matcher takes the characters for the
    value, and leaves no trace. -/
def Reads (m : Matcher σ) (s : σ) (taken rest : List Char) (v : Value) : Prop :=
  ∀ c : Cursor, c.rest = taken ++ rest → m c s = some (.success v (c.skip taken.length), s)

def Fails (m : Matcher σ) (s : σ) (rest : List Char) : Prop :=
  ∀ c : Cursor, c.rest = rest → ∃ f, m c s = some (.failure f, s)

def Declines (m : Matcher σ) (s : σ) (rest : List Char) : Prop :=
  ∀ c : Cursor, c.rest = rest → m.Refuses c s

/-- In front of the rest a repetition of the matcher comes to its end. -/
def Halts (committed : Bool) (m : Matcher σ) (s : σ) (rest : List Char) : Prop :=
  ∀ c : Cursor, c.rest = rest → ∃ x, m c s = some (x, s) ∧ x.decides committed c = false

namespace Reads

theorem and (hp : p.Reads s first (second ++ rest) v) (hq : q.Reads s second rest w) :
    (p.and q).Reads s (first ++ second) rest (.pair v w) := by
  intro c hc
  rw [List.append_assoc] at hc
  have hsecond := hq (c.skip first.length) (Cursor.rest_skip_of_append hc)
  rw [Cursor.skip_skip, ← List.length_append] at hsecond
  exact and_of_success (hp c hc) hsecond

theorem map (f : Value → Value) (hm : m.Reads s taken rest v) :
    (m.map f).Reads s taken rest (f v) := by
  intro c hc
  exact map_of_success f (hm c hc)

theorem text (hm : m.Reads s taken rest v) :
    m.text.Reads s taken rest (.str (String.ofList taken)) := by
  intro c hc
  have htext := text_of_success (hm c hc)
  have hpasses : c.Passes taken (c.skip taken.length) := .of_starts ⟨rest, hc.symm⟩
  rw [hpasses.sliceTo_eq] at htext
  exact htext

theorem named (label : String) (hm : m.Reads s taken rest v) :
    (m.named label).Reads s taken rest v := by
  intro c hc
  exact named_of_success (hm c hc)

theorem filter {keep : Value → Bool} (message : String) (hm : m.Reads s taken rest v)
    (hkeep : keep v = true) : (m.filter keep message).Reads s taken rest v := by
  intro c hc
  exact filter_of_success (hm c hc) hkeep

/-- A first branch that takes something is the choice. -/
theorem choice (hp : p.Reads s taken rest v) (hne : taken ≠ []) :
    (Matcher.choice committed p q).Reads s taken rest v := by
  intro c hc
  have hpasses : c.Passes taken (c.skip taken.length) := .of_starts ⟨rest, hc.symm⟩
  refine choice_of_decides (hp c hc) ?_
  simpa [Reply.decides] using hpasses.not_sameSpot hne

/-- A repetition ends with a round that takes nothing. -/
theorem halts (hm : m.Reads s [] rest v) : m.Halts committed s rest := by
  intro c hc
  refine ⟨_, hm c hc, ?_⟩
  simp [Reply.decides, Cursor.sameSpot, Cursor.skip]

end Reads

namespace Fails

theorem map (f : Value → Value) (hm : m.Fails s rest) : (m.map f).Fails s rest := by
  intro c hc
  obtain ⟨g, hrun⟩ := hm c hc
  exact ⟨g, map_of_failure f hrun⟩

theorem named (label : String) (hm : m.Fails s rest) : (m.named label).Fails s rest := by
  intro c hc
  obtain ⟨f, hrun⟩ := hm c hc
  exact ⟨_, named_of_failure label hrun⟩

theorem either (hp : p.Fails s rest) (hq : q.Fails s rest) :
    (Matcher.choice false p q).Fails s rest := by
  intro c hc
  obtain ⟨f, hrun⟩ := hp c hc
  obtain ⟨g, hrun'⟩ := hq c hc
  exact ⟨f.furthest g, choice_of_not_decides hrun rfl hrun'⟩

/-- A free choice takes its second branch, however far the first one has come. -/
theorem or (hp : p.Fails s (taken ++ rest)) (hq : q.Reads s taken rest v) :
    (Matcher.choice false p q).Reads s taken rest v := by
  intro c hc
  obtain ⟨f, hrun⟩ := hp c hc
  exact choice_of_not_decides hrun rfl (hq c hc)

theorem halts (hm : m.Fails s rest) : m.Halts false s rest := by
  intro c hc
  obtain ⟨f, hrun⟩ := hm c hc
  exact ⟨_, hrun, rfl⟩

end Fails

namespace Declines

theorem fails (hm : m.Declines s rest) : m.Fails s rest := by
  intro c hc
  obtain ⟨f, hrun, -⟩ := hm c hc
  exact ⟨f, hrun⟩

theorem and (hp : p.Declines s rest) : (p.and q).Declines s rest :=
  fun c hc => (hp c hc).and

theorem and_second (hp : p.Reads s [] rest v) (hq : q.Declines s rest) :
    (p.and q).Declines s rest := by
  intro c hc
  exact .and_second (hp c hc) (hq c hc)

theorem map (f : Value → Value) (hm : m.Declines s rest) : (m.map f).Declines s rest :=
  fun c hc => (hm c hc).map f

theorem filter (keep : Value → Bool) (message : String) (hm : m.Declines s rest) :
    (m.filter keep message).Declines s rest :=
  fun c hc => (hm c hc).filter keep message

theorem either (hp : p.Declines s rest) (hq : q.Declines s rest) :
    (Matcher.choice committed p q).Declines s rest :=
  fun c hc => (hp c hc).either (hq c hc)

/-- Any choice takes its second branch where the first one declines. -/
theorem choice (hp : p.Declines s (taken ++ rest)) (hq : q.Reads s taken rest v) :
    (Matcher.choice committed p q).Reads s taken rest v := by
  intro c hc
  obtain ⟨f, hrun, hf⟩ := hp c hc
  refine choice_of_not_decides hrun ?_ (hq c hc)
  rw [Reply.decides, hf, Bool.and_false]

theorem halts (hm : m.Declines s rest) : m.Halts committed s rest := by
  intro c hc
  obtain ⟨f, hrun, hf⟩ := hm c hc
  exact ⟨_, hrun, by rw [Reply.decides, hf, Bool.and_false]⟩

end Declines

/-! ### Rounds -/

/-- In front of the rest, the matcher takes these characters in turns for these values, and
    some of them for each. -/
inductive Rounds (m : Matcher σ) (s : σ) : List Char → List Char → List Value → Prop
  | nil (rest : List Char) : Rounds m s [] rest []
  | cons {first more rest : List Char} {v : Value} {vs : List Value}
    (hm : m.Reads s first (more ++ rest) v) (hne : first ≠ []) (hmore : Rounds m s more rest vs) :
    Rounds m s (first ++ more) rest (v :: vs)

namespace Rounds

theorem snoc (h : m.Rounds s taken (more ++ rest) vs) (hm : m.Reads s more rest v)
    (hne : more ≠ []) : m.Rounds s (taken ++ more) rest (vs ++ [v]) := by
  generalize hbehind : more ++ rest = behind at h
  induction h with
  | nil =>
    have hlast : m.Rounds s (more ++ []) rest [v] := .cons hm hne (.nil rest)
    rw [List.append_nil] at hlast
    exact hlast
  | @cons first between behind v' vs' hm' hne' _ ih =>
    subst hbehind
    rw [List.append_assoc, List.cons_append]
    refine .cons ?_ hne' (ih rfl)
    rw [List.append_assoc]
    exact hm'

/-- The first halt behind the rounds is where the repetition ends. -/
theorem gather (h : m.Rounds s taken rest vs) (hend : m.Halts committed s rest) (fuel : Nat)
    (found : List Value) (hc : c.rest = taken ++ rest) (hfuel : taken.length < fuel) :
    gather committed m fuel found c s =
      some (.success (.list (found.reverse ++ vs)) (c.skip taken.length), s) := by
  induction h generalizing c fuel found with
  | nil =>
    obtain ⟨fuel, rfl⟩ := Nat.exists_eq_succ_of_ne_zero (Nat.ne_of_gt hfuel)
    obtain ⟨x, hrun, hx⟩ := hend c hc
    rw [Matcher.gather, List.append_nil]
    cases x with
    | success v d =>
      have hspot : d.sameSpot c = true := by simpa [Reply.decides] using hx
      rw [handle_of_success hrun, if_pos hspot]
      rfl
    | failure f =>
      have hkept : ¬ (committed && f.consumedFrom c) = true := by simpa [Reply.decides] using hx
      rw [handle_of_failure hrun, if_neg hkept]
      rfl
    | defect e => cases hx
  | @cons first more rest v vs hm hne hmore ih =>
    rw [List.append_assoc] at hc
    rw [List.length_append] at hfuel
    have hpos : 0 < first.length := List.length_pos_of_ne_nil hne
    obtain ⟨fuel, rfl⟩ := Nat.exists_eq_succ_of_ne_zero (by omega : fuel ≠ 0)
    have hpasses : c.Passes first (c.skip first.length) := .of_starts ⟨more ++ rest, hc.symm⟩
    have hrest := ih hend fuel (v :: found) (Cursor.rest_skip_of_append hc) (by omega)
    rw [Matcher.gather, handle_of_success (hm c hc), if_neg (hpasses.not_sameSpot hne), hrest,
      Cursor.skip_skip, List.length_append, List.reverse_cons, List.append_assoc]
    rfl

theorem many (h : m.Rounds s taken rest vs) (hend : m.Halts committed s rest) :
    (m.many committed).Reads s taken rest (.list vs) := by
  intro c hc
  apply h.gather hend (c.rest.length + 1) [] hc
  rw [hc, List.length_append]
  omega

end Rounds

/-- In front of the rest, an operand takes the first of these characters, and in rounds
    operators with operands take the others; the value is what all of them are combined to,
    from the left. -/
inductive Chained (combine : Value → Value → Value → Value) (operator operand : Matcher σ) (s : σ) :
    List Char → List Char → Value → Prop
  | intro {first more rest : List Char} {v : Value} {vs : List Value}
    (hfirst : operand.Reads s first (more ++ rest) v)
    (hmore : (operator.and operand).Rounds s more rest vs) :
    Chained combine operator operand s (first ++ more) rest (.foldLeft combine v vs)

namespace Chained

variable {combine : Value → Value → Value → Value} {operator operand : Matcher σ} {tag : Value}

theorem single (h : operand.Reads s taken rest v) :
    Chained combine operator operand s taken rest v := by
  have hchained : Chained combine operator operand s (taken ++ []) rest (.foldLeft combine v []) :=
    .intro h (.nil rest)
  rw [List.append_nil] at hchained
  exact hchained

theorem snoc (h : Chained combine operator operand s taken (more ++ rest) v)
    (hm : (operator.and operand).Reads s more rest (.pair tag w)) (hne : more ≠ []) :
    Chained combine operator operand s (taken ++ more) rest (combine tag v w) := by
  cases h with
  | @intro first between _ v vs hfirst hmore =>
    have hvalue : combine tag (.foldLeft combine v vs) w =
        .foldLeft combine v (vs ++ [.pair tag w]) := by
      rw [Value.foldLeft, Value.foldLeft, List.foldl_append]
      rfl
    rw [hvalue, List.append_assoc]
    refine .intro ?_ (hmore.snoc hm hne)
    rw [List.append_assoc]
    exact hfirst

/-- **A chain reads an operand and rounds behind it**, up to where they halt. -/
theorem reads (h : Chained combine operator operand s taken rest v)
    (hend : (operator.and operand).Halts committed s rest) :
    (Matcher.chain committed .left combine operator operand).Reads s taken rest v := by
  cases h with
  | intro hfirst hmore =>
    rw [chain_eq]
    exact (hfirst.and (hmore.many hend)).map (Value.fold combine .left)

end Chained

end Matcher

/-! ### Characters, literals and numbers -/

namespace Parser

variable {σ : Type} [Traced σ] {call : Handle → Matcher σ} {s : σ} {k : CharClass} {p : Parser}
  {v : Value} {text blanks digits rest : List Char}

theorem char_reads {ch : Char} (h : k.accepts ch = true) :
    ((Parser.char k).matcher call).Reads s [ch] rest (.char ch) := by
  intro c hc
  apply (picks_char call k).takes c s ch rest hc
  rw [hc]
  exact h

theorem char_refuses {c : Cursor} (h : ∀ ch ∈ c.rest.head?, ¬ k.accepts ch = true) :
    ((Parser.char k).matcher call).Refuses c s := by
  have hmiss : k.scanner c.rest = Scanner.miss 0 c.rest k.description := by
    rcases hrest : c.rest with _ | ⟨ch, rest⟩
    · rfl
    · rw [hrest] at h
      exact if_neg (h ch rfl)
  apply Matcher.Refuses.here
  rw [matcher_char, hmiss]
  rfl

theorem char_declines (h : ∀ ch ∈ rest.head?, ¬ k.accepts ch = true) :
    ((Parser.char k).matcher call).Declines s rest := by
  intro c hc
  apply char_refuses
  rw [hc]
  exact h

theorem char_rounds (h : ∀ ch ∈ text, k.accepts ch = true) :
    ((Parser.char k).matcher call).Rounds s text rest (text.map .char) := by
  induction text with
  | nil => exact .nil rest
  | cons ch text ih =>
    have hmore := ih fun ch hch => h ch (List.mem_cons_of_mem _ hch)
    exact .cons (char_reads (h ch List.mem_cons_self)) (List.cons_ne_nil ch []) hmore

/-- All characters of a class that stand there, up to one outside of it. -/
theorem chars_read {committed : Bool} (h : ∀ ch ∈ text, k.accepts ch = true)
    (hend : ∀ ch ∈ rest.head?, ¬ k.accepts ch = true) :
    ((Parser.many committed (.char k)).matcher call).Reads s text rest (.list (text.map .char)) :=
  (char_rounds h).many (char_declines hend).halts

theorem token_reads (hstart : Text.NoBlankAhead (text ++ (blanks ++ rest)))
    (hp : (p.matcher call).Reads s text (blanks ++ rest) v) (hblanks : Text.Blank blanks)
    (hend : Text.NoBlankAhead rest) :
    (p.token.matcher call).Reads s (text ++ blanks) rest v := by
  have hbefore : ((Parser.many false (.char .whitespace)).matcher call).Reads s []
      (text ++ blanks ++ rest) (.list []) := by
    rw [List.append_assoc]
    exact chars_read (List.forall_mem_nil _) hstart
  have hbehind : ((Parser.many false (.char .whitespace)).matcher call).Reads s blanks rest
      (.list (blanks.map .char)) := chars_read hblanks hend
  exact (hbefore.and ((hp.and hbehind).map Value.first)).map Value.second

theorem token_declines (hstart : Text.NoBlankAhead rest) (hp : (p.matcher call).Declines s rest) :
    (p.token.matcher call).Declines s rest := by
  have hbefore : ((Parser.many false (.char .whitespace)).matcher call).Reads s [] rest
      (.list []) := chars_read (List.forall_mem_nil _) hstart
  exact (Matcher.Declines.and_second hbefore (hp.and.map Value.first)).map Value.second

theorem string_reads (call : Handle → Matcher σ) (s : σ) (literal : String) (rest : List Char) :
    ((Parser.string literal).matcher call).Reads s literal.toList rest (.str literal) := by
  intro c hc
  exact string_of_starts call s ⟨rest, hc.symm⟩

theorem string_fails {literal : String} (h : ¬ literal.toList <+: rest) :
    ((Parser.string literal).matcher call).Fails s rest := by
  intro c hc
  apply string_of_not_starts
  rw [hc]
  exact h

theorem string_declines_nil {literal : String} (h : literal.toList ≠ []) :
    ((Parser.string literal).matcher call).Declines s [] := by
  intro c hc
  apply Matcher.Refuses.here
  apply string_of_atEnd call s hc
  rw [hc, List.prefix_nil]
  exact h

theorem number_reads (hdigits : Text.Digits digits) (hstop : Text.NoDigitAhead rest) :
    (number.matcher call).Reads s digits rest (.str (String.ofList digits)) := by
  obtain ⟨ch, more, rfl⟩ := List.exists_cons_of_ne_nil hdigits.nonempty
  have hfirst : ((Parser.char .digit).matcher call).Reads s [ch] (more ++ rest) (.char ch) :=
    char_reads (hdigits.all ch List.mem_cons_self)
  have hmore : ((Parser.many false (.char .digit)).matcher call).Reads s more rest
      (.list (more.map .char)) :=
    chars_read (fun ch hch => hdigits.all ch (List.mem_cons_of_mem _ hch)) hstop
  exact ((hfirst.and hmore).map Value.consPair).text.named "number"

theorem number_refuses {c : Cursor} (h : Text.NoDigitAhead c.rest) :
    (number.matcher call).Refuses c s := by
  have hfirst : ((Parser.char .digit).matcher call).Refuses c s := char_refuses h
  exact (hfirst.and.map Value.consPair).text.named "number"

end Parser

/-! ### Items with delimiters between them -/

theorem Text.intercalate_cons (delimiter item : List Char) (items : List (List Char)) :
    delimiter.intercalate (item :: items) = item ++ items.flatMap (delimiter ++ ·) := by
  induction items generalizing item with
  | nil => simp
  | cons next items ih =>
    rw [List.intercalate_cons_cons, ih next, List.flatMap_cons, List.append_assoc,
      List.append_assoc]

namespace Parser

variable {σ : Type} [Traced σ] {call : Handle → Matcher σ} {s : σ} {p delimiter : Parser}
  {mark rest : List Char} {d : Value} {R : List Char → Value → Prop} {Stops : List Char → Prop}
  {items : List (List Char)} {vs : List Value}

/-- Items of a kind are read where they have ended, and in front of each delimiter they
    have. -/
structure Delimits (call : Handle → Matcher σ) (s : σ) (p delimiter : Parser) (mark : List Char)
    (d : Value) (R : List Char → Value → Prop) (Stops : List Char → Prop) : Prop where
  nonempty : mark ≠ []
  reads_mark : ∀ rest, (delimiter.matcher call).Reads s mark rest d
  reads_item : ∀ item v rest, R item v → Stops rest → (p.matcher call).Reads s item rest v
  stops : ∀ more, Stops (mark ++ more)

namespace Delimits

theorem stops_flatMap (h : Delimits call s p delimiter mark d R Stops) (hrest : Stops rest)
    (items : List (List Char)) : Stops (items.flatMap (mark ++ ·) ++ rest) := by
  cases items with
  | nil => exact hrest
  | cons item items =>
    rw [List.flatMap_cons, List.append_assoc, List.append_assoc]
    exact h.stops _

theorem rounds (h : Delimits call s p delimiter mark d R Stops) (hrest : Stops rest)
    (hitems : List.Forall₂ R items vs) :
    ((Parser.and delimiter p).matcher call).Rounds s (items.flatMap (mark ++ ·)) rest
      (vs.map (.pair d)) := by
  induction hitems with
  | nil => exact .nil rest
  | @cons item v items vs hitem _ ih =>
    rw [List.flatMap_cons, List.map_cons]
    refine .cons ?_ (List.append_ne_nil_of_left_ne_nil h.nonempty item) ih
    exact (h.reads_mark _).and (h.reads_item item v _ hitem (h.stops_flatMap hrest items))

/-- **Items with delimiters between them are read**, up to where no delimiter stands. -/
theorem reads (h : Delimits call s p delimiter mark d R Stops) (committed : Bool)
    (hrest : Stops rest) (hend : (delimiter.matcher call).Declines s rest)
    (hitems : List.Forall₂ R items vs) (hne : items ≠ []) :
    ((delimited committed p delimiter).matcher call).Reads s (mark.intercalate items) rest
      (.list vs) := by
  cases hitems with
  | nil => exact absurd rfl hne
  | @cons item v items vs hitem hitems =>
    have hend' : ((Parser.and delimiter p).matcher call).Halts committed s rest := hend.and.halts
    have hmore := (h.rounds hrest hitems).many hend'
    have hfirst := h.reads_item item v _ hitem (h.stops_flatMap hrest items)
    have hseconds : (vs.map (Value.pair d)).map Value.second = vs := by
      rw [List.map_map]
      exact List.map_id vs
    have hvalue : Value.consSeconds (.pair v (.list (vs.map (.pair d)))) = .list (v :: vs) := by
      rw [Value.consSeconds, Value.items, hseconds]
    rw [Text.intercalate_cons, ← hvalue]
    exact (hfirst.and hmore).map Value.consSeconds

end Delimits

end Parser

end Descent
