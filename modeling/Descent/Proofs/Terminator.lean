/-
  Descent/Proofs/Terminator.lean
  ==============================
  **Reading up to a mark** — comments stop where their mark stands first.

  There is no search in the grammar for a comment.  In front of each character the mark is
  tried on, and if it does not fit, one character is taken; where the repetition ends, the
  mark is read once more.  That this finds the first place of the mark is a fact about
  texts: the characters that are taken are those before each of which the mark does not
  fit (`Text.leading`), and they are the text before its first occurrence
  (`Text.FirstAt.leading_eq`).  Marks may overlap themselves or be empty.

  A comment that ends with its line takes characters by what they are, which is the same
  loop with another test (`Matcher.Picks`).
-/
import Descent.Parser.Lexeme
import Descent.Proofs.Alternation
import Descent.Proofs.Literal

namespace Descent

/-! ### First occurrences -/

namespace Text

variable {mark text before after : List Char}

/-- In the text the mark stands between `before` and `after`, and nowhere earlier. -/
structure FirstAt (mark text before after : List Char) : Prop where
  text_eq : text = before ++ (mark ++ after)
  first : ∀ i < before.length, ¬ mark <+: text.drop i

/-- The leading characters of a text, up to the first one where a test turns down what is
    left of the text. -/
def leading (go : List Char → Bool) : List Char → List Char
  | [] => []
  | c :: cs => if go (c :: cs) then c :: leading go cs else []

def lacks (mark text : List Char) : Bool := !mark.isPrefixOf text

theorem lacks_eq_false : lacks mark text = false ↔ mark <+: text := by
  simp [lacks, List.isPrefixOf_iff_prefix]

theorem lacks_eq_true : lacks mark text = true ↔ ¬ mark <+: text := by
  rw [← lacks_eq_false, Bool.not_eq_false]

theorem leading_of_stops {go : List Char → Bool} (h : text = [] ∨ go text = false) :
    leading go text = [] := by
  cases text with
  | nil => rfl
  | cons c text => rw [leading, if_neg (by simpa using h)]

theorem leading_cons {go : List Char → Bool} {c : Char} (h : go (c :: text) = true) :
    leading go (c :: text) = c :: leading go text := by
  rw [leading, if_pos h]

theorem leading_head (test : Char → Bool) (text : List Char) :
    leading (fun rest => rest.head?.any test) text = text.takeWhile test := by
  induction text with
  | nil => rfl
  | cons c text ih =>
    rw [leading, ih, List.takeWhile_cons]
    rfl

namespace FirstAt

theorem here (h : mark <+: text) : ∃ after, FirstAt mark text [] after := by
  obtain ⟨after, rfl⟩ := h
  exact ⟨after, rfl, fun _ hlt => absurd hlt (Nat.not_lt_zero _)⟩

theorem cons {c : Char} (h : FirstAt mark text before after) (hlater : ¬ mark <+: c :: text) :
    FirstAt mark (c :: text) (c :: before) after := by
  refine ⟨by rw [h.text_eq, List.cons_append], ?_⟩
  rintro (_ | i) hlt
  · exact hlater
  · exact h.first i (Nat.lt_of_succ_lt_succ hlt)

theorem tail {c : Char} (h : FirstAt mark (c :: text) (c :: before) after) :
    FirstAt mark text before after :=
  ⟨(List.cons.inj h.text_eq).2, fun i hlt => h.first (i + 1) (Nat.succ_lt_succ hlt)⟩

/-- **The characters in front of which the mark does not stand** are the text before its
    first occurrence. -/
theorem leading_eq (h : FirstAt mark text before after) : leading (lacks mark) text = before := by
  induction before generalizing text with
  | nil =>
    have hmark : lacks mark text = false := lacks_eq_false.mpr ⟨after, h.text_eq.symm⟩
    exact leading_of_stops (.inr hmark)
  | cons b before ih =>
    obtain ⟨text', rfl⟩ : ∃ text', text = b :: text' := ⟨_, h.text_eq⟩
    have hlater : lacks mark (b :: text') = true := lacks_eq_true.mpr (h.first 0 (Nat.succ_pos _))
    rw [leading_cons hlater, ih h.tail]

end FirstAt

theorem exists_firstAt (h : mark <:+: text) : ∃ before after, FirstAt mark text before after := by
  induction text with
  | nil =>
    obtain rfl := List.infix_nil.mp h
    exact ⟨[], FirstAt.here List.nil_prefix⟩
  | cons c text ih =>
    by_cases hmark : mark <+: c :: text
    · exact ⟨[], FirstAt.here hmark⟩
    · obtain ⟨before, after, hfirst⟩ := ih ((List.infix_cons_iff.mp h).resolve_left hmark)
      exact ⟨c :: before, after, hfirst.cons hmark⟩

theorem FirstAt.occurs (h : FirstAt mark text before after) : mark <:+: text :=
  ⟨before, after, by rw [List.append_assoc, h.text_eq]⟩

/-- Where the mark does not occur, all characters are taken. -/
theorem leading_of_absent (h : ¬ mark <:+: text) : leading (lacks mark) text = text := by
  induction text with
  | nil => rfl
  | cons c text ih =>
    rw [List.infix_cons_iff, not_or] at h
    rw [leading_cons (lacks_eq_true.mpr h.1), ih h.2]

end Text

/-! ### Moving by a number of characters -/

namespace Cursor

variable {c : Cursor}

theorem skip_succ {ch : Char} {rest : List Char} (h : c.rest = ch :: rest) (n : Nat) :
    c.skip (n + 1) = (c.skip 1).skip n := by
  simp [skip, advance?, step?, h]

theorem skip_of_atEnd (h : c.rest = []) (n : Nat) : c.skip n = c := by
  cases n with
  | zero => rfl
  | succ n => simp [skip, advance?, step?, h]

theorem skip_skip (m n : Nat) (c : Cursor) : (c.skip m).skip n = c.skip (m + n) := by
  induction m generalizing c with
  | zero => rw [Nat.zero_add, skip]
  | succ m ih =>
    rcases hrest : c.rest with _ | ⟨ch, rest⟩
    · rw [skip_of_atEnd hrest, skip_of_atEnd hrest, skip_of_atEnd hrest]
    · rw [skip_succ hrest, ih, Nat.succ_add, ← skip_succ hrest]

theorem not_sameSpot_skip {ch : Char} {rest : List Char} (h : c.rest = ch :: rest) :
    ¬ (c.skip 1).sameSpot c = true :=
  (Passes.skip 1 c).not_sameSpot (by simp [h])

end Cursor

/-! ### Taking characters one at a time -/

namespace Matcher

variable {σ : Type} {m p q : Matcher σ} {go : List Char → Bool} {c d e : Cursor} {s s' s'' : σ}
  {v w : Value}

theorem and_of_success (hp : p c s = some (.success v d, s'))
    (hq : q d s' = some (.success w e, s'')) :
    p.and q c s = some (.success (.pair v w) e, s'') := by
  rw [and, sequence, handle_of_success hp, handle_of_success hq]
  rfl

theorem and_of_failure {f : Failure} (hp : p c s = some (.failure f, s')) :
    p.and q c s = some (.failure f, s') := by
  rw [and, sequence, handle_of_failure hp]
  rfl

theorem and_of_second_failure {f : Failure} (hp : p c s = some (.success v d, s'))
    (hq : q d s' = some (.failure f, s'')) : p.and q c s = some (.failure f, s'') := by
  rw [and, sequence, handle_of_success hp, handle_of_failure hq]
  rfl

theorem map_of_success (f : Value → Value) (hm : m c s = some (.success v d, s')) :
    m.map f c s = some (.success (f v) d, s') :=
  handle_of_success hm

theorem map_of_failure (f : Value → Value) {g : Failure} (hm : m c s = some (.failure g, s')) :
    m.map f c s = some (.failure g, s') :=
  handle_of_failure hm

theorem text_of_success (hm : m c s = some (.success v d, s')) :
    m.text c s = some (.success (.str (String.ofList (c.sliceTo d))) d, s') :=
  handle_of_success hm

theorem absent_of_success {message : String} {labels : List String}
    (hm : m c s = some (.success v d, s')) :
    m.absent message labels c s = some (.failure (.of c message labels), s') :=
  handle_of_success hm

theorem absent_of_failure {message : String} {labels : List String} {f : Failure}
    (hm : m c s = some (.failure f, s')) :
    m.absent message labels c s = some (.success .unit c, s') :=
  handle_of_failure hm

/-- The matcher takes one character where the test keeps the unread text, and fails where
    the test turns it down or nothing is left. -/
structure Picks (go : List Char → Bool) (m : Matcher σ) : Prop where
  takes : ∀ c s ch rest, c.rest = ch :: rest → go c.rest = true →
    m c s = some (.success (.char ch) (c.skip 1), s)
  stops : ∀ c s, c.rest = [] ∨ go c.rest = false → ∃ f, m c s = some (.failure f, s)

/-- A repetition takes the leading characters that the test keeps. -/
theorem Picks.gather (hm : m.Picks go) (fuel : Nat) (found : List Value)
    (hfuel : c.rest.length < fuel) :
    gather false m fuel found c s =
      some (.success (.list (found.reverse ++ (Text.leading go c.rest).map .char))
        (c.skip (Text.leading go c.rest).length), s) := by
  induction fuel generalizing c found with
  | zero => exact absurd hfuel (Nat.not_lt_zero _)
  | succ fuel ih =>
    by_cases hend : c.rest = [] ∨ go c.rest = false
    · obtain ⟨f, hrun⟩ := hm.stops c s hend
      rw [Matcher.gather, handle_of_failure hrun, Text.leading_of_stops hend]
      simp [succeed, Cursor.skip]
    · rw [not_or, Bool.not_eq_false] at hend
      obtain ⟨hsome, hgo⟩ := hend
      obtain ⟨ch, rest, hrest⟩ := List.exists_cons_of_ne_nil hsome
      have hnext : (c.skip 1).rest = rest := by
        rw [Cursor.rest_skip, hrest]
        rfl
      have hless : (c.skip 1).rest.length < fuel := by
        rw [hrest, List.length_cons] at hfuel
        rw [hnext]
        omega
      have hleading : Text.leading go c.rest = ch :: Text.leading go rest := by
        rw [hrest] at hgo ⊢
        exact Text.leading_cons hgo
      rw [Matcher.gather, handle_of_success (hm.takes c s ch rest hrest hgo),
        if_neg (Cursor.not_sameSpot_skip hrest), ih (.char ch :: found) hless, hnext,
        Cursor.skip_skip, hleading]
      simp [Nat.add_comm]

theorem Picks.many (hm : m.Picks go) :
    many false m c s = some (.success (.list ((Text.leading go c.rest).map .char))
      (c.skip (Text.leading go c.rest).length), s) :=
  hm.gather (c.rest.length + 1) [] (Nat.lt_succ_self _)

end Matcher

namespace Parser

variable {σ : Type} [Traced σ] {call : Handle → Matcher σ} {c d : Cursor} {s s' : σ} {text : String}
  {v : Value} {p : Parser}

theorem matcher_char (call : Handle → Matcher σ) (k : CharClass) (c : Cursor) (s : σ) :
    (Parser.char k).matcher call c s = some (Matcher.conclude c (k.scanner c.rest), s) := rfl

theorem string_of_starts (call : Handle → Matcher σ) (s : σ) (h : text.toList <+: c.rest) :
    (Parser.string text).matcher call c s =
      some (.success (.str text) (c.skip text.toList.length), s) := by
  have hall : Text.Agrees (Stands false) c.rest text.toList text.toList.length :=
    Text.agrees_eq_iff.mpr h
  have hread := literal_of_agrees call s hall
  rwa [← List.prefix_iff_eq_take.mp h, String.ofList_toList] at hread

theorem string_of_not_starts (call : Handle → Matcher σ) (s : σ) (h : ¬ text.toList <+: c.rest) :
    ∃ f, (Parser.string text).matcher call c s = some (.failure f, s) := by
  have hmiss : ¬ Text.Agrees (Stands false) c.rest text.toList text.toList.length :=
    fun hall => h (Text.agrees_eq_iff.mp hall)
  obtain ⟨_, f, hfails, -⟩ := literal_of_not_agrees call s hmiss
  exact ⟨f, hfails⟩

theorem string_of_atEnd (call : Handle → Matcher σ) (s : σ) (hrest : c.rest = [])
    (h : ¬ text.toList <+: c.rest) :
    (Parser.string text).matcher call c s = some (.failure (.unexpected c text), s) := by
  rw [hrest, List.prefix_nil] at h
  obtain ⟨ch, rest, htext⟩ := List.exists_cons_of_ne_nil h
  rw [Parser.string, matcher_literal, hrest, Scanner.literal, htext]
  simp [agreeing, Scanner.miss, Matcher.conclude, Cursor.skip, Failure.unexpected, hrest]

/-! ### Characters and characters in front of no mark -/

theorem picks_char (call : Handle → Matcher σ) (k : CharClass) :
    ((Parser.char k).matcher call).Picks fun rest => rest.head?.any k.accepts where
  takes c s ch rest hrest hgo := by
    have haccepts : k.accepts ch = true := by simpa [hrest] using hgo
    rw [matcher_char, hrest, CharClass.scanner, if_pos haccepts]
    rfl
  stops c s hend := by
    rw [matcher_char]
    rcases hrest : c.rest with _ | ⟨ch, rest⟩
    · exact ⟨_, rfl⟩
    · have hrefuses : ¬ k.accepts ch = true := by simpa [hrest] using hend
      rw [CharClass.scanner, if_neg hrefuses]
      exact ⟨_, rfl⟩

theorem picks_except (call : Handle → Matcher σ) (mark : String) :
    (((Parser.char .any).except (.string mark)).matcher call).Picks (Text.lacks mark.toList) where
  takes c s ch rest hrest hgo := by
    obtain ⟨f, hmark⟩ := string_of_not_starts call s (Text.lacks_eq_true.mp hgo)
    have hany := (picks_char call .any).takes c s ch rest hrest (by rw [hrest]; rfl)
    exact Matcher.map_of_success _ (Matcher.and_of_success (Matcher.absent_of_failure hmark) hany)
  stops c s hend := by
    by_cases hstarts : mark.toList <+: c.rest
    · have hmark := string_of_starts call s hstarts
      exact ⟨_, Matcher.map_of_failure _ (Matcher.and_of_failure (Matcher.absent_of_success hmark))⟩
    · have hrest : c.rest = [] :=
        hend.resolve_right fun hgo => hstarts (Text.lacks_eq_false.mp hgo)
      obtain ⟨f, hmark⟩ := string_of_not_starts call s hstarts
      obtain ⟨g, hany⟩ := (picks_char call .any).stops c s (.inl hrest)
      exact ⟨g, Matcher.map_of_failure _
        (Matcher.and_of_second_failure (Matcher.absent_of_failure hmark) hany)⟩

/-! ### Up to a mark -/

variable {mark : String} {before after : List Char}

/-- A character parser up to a mark stops behind the first one. -/
theorem upTo_of_firstAt (call : Handle → Matcher σ) (s : σ)
    (h : Text.FirstAt mark.toList c.rest before after) :
    ((Parser.char .any).upTo (.string mark)).matcher call c s =
      some (.success (.list (before.map .char))
        (c.skip (before.length + mark.toList.length)), s) := by
  have hmany := (picks_except call mark).many (c := c) (s := s)
  rw [h.leading_eq] at hmany
  have hstarts : mark.toList <+: (c.skip before.length).rest := by
    rw [Cursor.rest_skip, h.text_eq, List.drop_left']
    · exact List.prefix_append _ _
    · rfl
  have hmark := string_of_starts call s hstarts
  rw [Cursor.skip_skip] at hmark
  exact Matcher.map_of_success _ (Matcher.and_of_success hmany hmark)

/-- Without a mark it fails where the text ends. -/
theorem upTo_of_absent (call : Handle → Matcher σ) (s : σ) (h : ¬ mark.toList <:+: c.rest) :
    ((Parser.char .any).upTo (.string mark)).matcher call c s =
      some (.failure (.unexpected (c.skip c.rest.length) mark), s) := by
  have hmany := (picks_except call mark).many (c := c) (s := s)
  rw [Text.leading_of_absent h] at hmany
  have hrest : (c.skip c.rest.length).rest = [] := by rw [Cursor.rest_skip, List.drop_length]
  have hnone : ¬ mark.toList <+: (c.skip c.rest.length).rest := by
    intro hstarts
    rw [hrest, List.prefix_nil] at hstarts
    exact h (hstarts ▸ List.nil_infix)
  have hmark := string_of_atEnd call s hrest hnone
  exact Matcher.map_of_failure _ (Matcher.and_of_second_failure hmany hmark)

/-! ### Behind a literal -/

theorem behind_string_of_success {body : List Char} (hrest : c.rest = text.toList ++ body)
    (hp : p.matcher call (c.skip text.toList.length) s = some (.success v d, s')) :
    ((Parser.string text).behind p).matcher call c s = some (.success v d, s') :=
  Matcher.map_of_success _ (Matcher.and_of_success (string_of_starts call s ⟨body, hrest.symm⟩) hp)

theorem behind_string_of_failure {body : List Char} {f : Failure}
    (hrest : c.rest = text.toList ++ body)
    (hp : p.matcher call (c.skip text.toList.length) s = some (.failure f, s')) :
    ((Parser.string text).behind p).matcher call c s = some (.failure f, s') :=
  Matcher.map_of_failure _
    (Matcher.and_of_second_failure (string_of_starts call s ⟨body, hrest.symm⟩) hp)

theorem behind_string_of_not_starts (h : ¬ text.toList <+: c.rest) :
    ∃ f, ((Parser.string text).behind p).matcher call c s = some (.failure f, s) := by
  obtain ⟨f, hrun⟩ := string_of_not_starts call s h
  exact ⟨f, Matcher.map_of_failure _ (Matcher.and_of_failure hrun)⟩

theorem rest_behind_string {body : List Char} (hrest : c.rest = text.toList ++ body) :
    (c.skip text.toList.length).rest = body := by
  rw [Cursor.rest_skip, hrest, List.drop_left]

/-! ### What readers of comments do -/

/-- At each cursor the parser reads up to the first mark and over it; without a mark it fails
    where the text ends, and asks for the mark. -/
structure ReadsUpTo (call : Handle → Matcher σ) (mark : String) (p : Parser) : Prop where
  reads : ∀ c s before after, Text.FirstAt mark.toList c.rest before after →
    p.matcher call c s =
      some (.success (.list (before.map .char)) (c.skip (before.length + mark.toList.length)), s)
  fails : ∀ c s, ¬ mark.toList <:+: c.rest →
    p.matcher call c s = some (.failure (.unexpected (c.skip c.rest.length) mark), s)

/-- At each cursor the parser reads what stands between an opening mark and the first closing
    mark behind it, and over that one. -/
structure ReadsBetween (call : Handle → Matcher σ) (opening closing : String) (p : Parser) :
    Prop where
  reads : ∀ c s body before after, c.rest = opening.toList ++ body →
    Text.FirstAt closing.toList body before after →
    p.matcher call c s = some (.success (.str (String.ofList before))
      (c.skip (opening.toList.length + before.length + closing.toList.length)), s)
  fails : ∀ c s, (∀ body, c.rest = opening.toList ++ body → ¬ closing.toList <:+: body) →
    ∃ f, p.matcher call c s = some (.failure f, s)

/-- At each cursor the parser reads a mark and what stands behind it up to the end of the
    line, which it leaves. -/
structure ReadsLine (call : Handle → Matcher σ) (marker : String) (newline : List Char)
    (p : Parser) : Prop where
  reads : ∀ c s body, c.rest = marker.toList ++ body →
    p.matcher call c s =
      some (.success (.str (String.ofList (body.takeWhile fun ch => !newline.contains ch)))
        (c.skip (marker.toList.length +
          (body.takeWhile fun ch => !newline.contains ch).length)), s)
  fails : ∀ c s, ¬ marker.toList <+: c.rest → ∃ f, p.matcher call c s = some (.failure f, s)

def Succeeds (call : Handle → Matcher σ) (p : Parser) (c : Cursor) (s : σ) : Prop :=
  ∃ v d, p.matcher call c s = some (.success v d, s)

/-- At each cursor the parser succeeds where one of two others does, and fails where none
    does; a success of the first one that consumes something is its own. -/
structure ReadsEither (call : Handle → Matcher σ) (p first second : Parser) : Prop where
  succeeds_iff : ∀ c s, p.Succeeds call c s ↔ first.Succeeds call c s ∨ second.Succeeds call c s
  fails : ∀ c s, ¬ p.Succeeds call c s → ∃ f, p.matcher call c s = some (.failure f, s)
  reads : ∀ c s v d, first.matcher call c s = some (.success v d, s) → ¬ d.sameSpot c = true →
    p.matcher call c s = some (.success v d, s)

theorem readsUpTo (mark : String) : ((Parser.char .any).upTo (.string mark)).ReadsUpTo call mark :=
  ⟨fun _ s _ _ h => upTo_of_firstAt call s h, fun _ s h => upTo_of_absent call s h⟩

theorem asText_chars (chars : List Char) :
    Value.asText (.list (chars.map .char)) = .str (String.ofList chars) := by
  have hchars : Value.charsAll (chars.map .char) = chars := by
    induction chars with
    | nil => rfl
    | cons ch chars ih => simp [Value.charsAll, Value.chars, ih]
  rw [Value.asText, Value.text, Value.chars, hchars]

theorem readsBetween (opening closing : String) :
    ((Parser.string opening).behind
      (.map Value.asText ((Parser.char .any).upTo (.string closing)))).ReadsBetween
        call opening closing where
  reads c s body before after hrest hfirst := by
    refine behind_string_of_success hrest ?_
    rw [← rest_behind_string hrest] at hfirst
    have hbody := Matcher.map_of_success Value.asText (upTo_of_firstAt call s hfirst)
    rw [asText_chars, Cursor.skip_skip, ← Nat.add_assoc] at hbody
    exact hbody
  fails c s hnone := by
    by_cases hstarts : opening.toList <+: c.rest
    · obtain ⟨body, hrest⟩ := hstarts
      have hclosing := hnone body hrest.symm
      rw [← rest_behind_string hrest.symm] at hclosing
      exact ⟨_, behind_string_of_failure hrest.symm
        (Matcher.map_of_failure Value.asText (upTo_of_absent call s hclosing))⟩
    · exact behind_string_of_not_starts hstarts

theorem readsLine (marker : String) (newline : List Char) :
    ((Parser.string marker).behind (.text (.many false (.char (.outside newline))))).ReadsLine
      call marker newline where
  reads c s body hrest := by
    refine behind_string_of_success hrest ?_
    have hbody := rest_behind_string hrest
    have hmany := (picks_char call (.outside newline)).many
      (c := c.skip marker.toList.length) (s := s)
    rw [Text.leading_head, hbody] at hmany
    have hstarts : body.takeWhile (CharClass.outside newline).accepts <+:
        (c.skip marker.toList.length).rest := by
      rw [hbody]
      exact List.takeWhile_prefix _
    have htext := Matcher.text_of_success hmany
    rw [(Cursor.Passes.of_starts hstarts).sliceTo_eq, Cursor.skip_skip] at htext
    exact htext
  fails c s hstarts := behind_string_of_not_starts hstarts

/-- The parser comes back at the cursor, without a defect and without a trace. -/
def Settles (call : Handle → Matcher σ) (p : Parser) (c : Cursor) (s : σ) : Prop :=
  p.Succeeds call c s ∨ ∃ f, p.matcher call c s = some (.failure f, s)

theorem ReadsBetween.settles {opening closing : String} (h : p.ReadsBetween call opening closing) :
    p.Settles call c s := by
  by_cases hclosed : ∃ body, c.rest = opening.toList ++ body ∧ closing.toList <:+: body
  · obtain ⟨body, hrest, hoccurs⟩ := hclosed
    obtain ⟨before, after, hfirst⟩ := Text.exists_firstAt hoccurs
    exact .inl ⟨_, _, h.reads c s body before after hrest hfirst⟩
  · exact .inr (h.fails c s fun body hrest hoccurs => hclosed ⟨body, hrest, hoccurs⟩)

theorem ReadsLine.settles {marker : String} {newline : List Char}
    (h : p.ReadsLine call marker newline) : p.Settles call c s := by
  by_cases hstarts : marker.toList <+: c.rest
  · obtain ⟨body, hrest⟩ := hstarts
    exact .inl ⟨_, _, h.reads c s body hrest.symm⟩
  · exact .inr (h.fails c s hstarts)

section Either

variable {first second : Parser}

theorem or_of_first (hfirst : first.Succeeds call c s) (hsecond : second.Settles call c s) :
    (first.or second).Succeeds call c s := by
  obtain ⟨v, d, hx⟩ := hfirst
  rcases hdecides : (Reply.success v d).decides false c with _ | _
  · rcases hsecond with ⟨w, e, hy⟩ | ⟨g, hy⟩
    · exact ⟨w, e, Matcher.choice_of_not_decides hx hdecides hy⟩
    · exact ⟨v, d, Matcher.choice_of_not_decides hx hdecides hy⟩
  · exact ⟨v, d, Matcher.choice_of_decides hx hdecides⟩

theorem or_of_second (hfirst : first.Settles call c s) (hsecond : second.Succeeds call c s) :
    (first.or second).Succeeds call c s := by
  rcases hfirst with hfirst | ⟨f, hx⟩
  · exact or_of_first hfirst (.inl hsecond)
  · obtain ⟨w, e, hy⟩ := hsecond
    exact ⟨w, e, Matcher.choice_of_not_decides hx rfl hy⟩

theorem readsEither (hfirst : ∀ c s, first.Settles call c s)
    (hsecond : ∀ c s, second.Settles call c s) :
    (first.or second).ReadsEither call first second := by
  have hsettled : ∀ c s, (first.or second).Succeeds call c s ∧
        (first.Succeeds call c s ∨ second.Succeeds call c s) ∨
      ∃ f, (first.or second).matcher call c s = some (.failure f, s) ∧
        ¬ (first.Succeeds call c s ∨ second.Succeeds call c s) := by
    intro c s
    rcases hfirst c s with hx | ⟨f, hx⟩
    · exact .inl ⟨or_of_first hx (hsecond c s), .inl hx⟩
    rcases hsecond c s with hy | ⟨g, hy⟩
    · exact .inl ⟨or_of_second (.inr ⟨f, hx⟩) hy, .inr hy⟩
    refine .inr ⟨f.furthest g, Matcher.choice_of_not_decides hx rfl hy, ?_⟩
    rintro (⟨v, d, hx'⟩ | ⟨w, e, hy'⟩)
    · cases hx.symm.trans hx'
    · cases hy.symm.trans hy'
  refine ⟨fun c s => ?_, fun c s hnone => ?_, fun c s v d hrun hmoves => ?_⟩
  · rcases hsettled c s with ⟨hreads, heither⟩ | ⟨f, hfails, hneither⟩
    · exact iff_of_true hreads heither
    · refine iff_of_false ?_ hneither
      rintro ⟨v, d, hreads⟩
      cases hfails.symm.trans hreads
  · rcases hsettled c s with ⟨hreads, _⟩ | ⟨f, hfails, _⟩
    · exact absurd hreads hnone
    · exact ⟨f, hfails⟩
  · exact Matcher.choice_of_decides hrun (by simpa [Reply.decides] using hmoves)

end Either

end Parser

/-! ### Comments -/

namespace CommentStyle

variable {σ : Type} [Traced σ] {call : Handle → Matcher σ} {style : CommentStyle}
  {single multi : Parser}

theorem exists_readsLine (call : Handle → Matcher σ) (h : style.singleLineComment = .ok single) :
    ∃ marker, single.ReadsLine call marker style.newline := by
  rw [singleLineComment] at h
  split at h
  · next marker _ =>
    cases h
    exact ⟨marker, Parser.readsLine marker style.newline⟩
  · cases h

theorem exists_readsBetween (call : Handle → Matcher σ) (h : style.multiLineComment = .ok multi) :
    ∃ opening closing, multi.ReadsBetween call opening closing := by
  rw [multiLineComment] at h
  split at h
  · next opening closing _ =>
    cases h
    exact ⟨opening, closing, Parser.readsBetween opening closing⟩
  · cases h

/-- **Comments end at their marks.**  A character parser up to a mark succeeds where the mark
    occurs in the unread text, with the characters before its first occurrence, and stops
    behind it; elsewhere it fails at the end of the text, where it asks for the mark.  A
    comment between two marks succeeds where the opening one stands and the closing one occurs
    behind it, with the text up to the first of these.  A comment that ends with its line
    succeeds where its mark stands, with the longest run of characters behind it that end no
    line, and it leaves what ends the run.  A comment of either kind succeeds where one of the
    two does, and a comment to the end of the line that consumed something is preferred. -/
theorem comments_end_at_marks (call : Handle → Matcher σ) (style : CommentStyle) :
    (∀ mark, ((Parser.char .any).upTo (.string mark)).ReadsUpTo call mark) ∧
    (∀ mark text, mark <:+: text ↔ ∃ before after, Text.FirstAt mark text before after) ∧
    (∀ opening closing, style.multiLine = some (opening, closing) →
      ∃ multi, style.multiLineComment = .ok multi ∧ multi.ReadsBetween call opening closing) ∧
    (∀ marker, style.singleLine = some marker →
      ∃ single, style.singleLineComment = .ok single ∧
        single.ReadsLine call marker style.newline) ∧
    ∀ single multi, style.singleLineComment = .ok single → style.multiLineComment = .ok multi →
      ∃ p, style.anyComment = .ok p ∧ p.ReadsEither call single multi := by
  refine ⟨Parser.readsUpTo, fun mark text => ?_, fun opening closing hstyle => ?_,
    fun marker hstyle => ?_, fun single multi hsingle hmulti => ?_⟩
  · constructor
    · exact Text.exists_firstAt
    · rintro ⟨before, after, hfirst⟩
      exact hfirst.occurs
  · refine ⟨_, ?_, Parser.readsBetween opening closing⟩
    rw [multiLineComment, hstyle]
  · refine ⟨_, ?_, Parser.readsLine marker style.newline⟩
    rw [singleLineComment, hstyle]
  · refine ⟨single.or multi, ?_, Parser.readsEither (fun c s => ?_) fun c s => ?_⟩
    · rw [anyComment, hsingle, hmulti]
    · obtain ⟨marker, hline⟩ := exists_readsLine call hsingle
      exact hline.settles
    · obtain ⟨opening, closing, hbetween⟩ := exists_readsBetween call hmulti
      exact hbetween.settles

/-- The star that opens a comment does not close it, and the second opening mark is text.
    Over the slash behind, a comment to the end of the line is not read. -/
theorem comments_end_at_marks_overlapping :
    let start : Cursor := .start ['/', '*', '/', '*', '*', '/', '/']
    ∃ multi p, standard.multiLineComment = .ok multi ∧ standard.anyComment = .ok p ∧
      multi.matcher (World.call 0) start .empty =
        some (.success (.str "/*") (start.skip 6), .empty) ∧
      p.Succeeds (World.call 0) start World.empty ∧
      ∃ f, p.matcher (World.call 0) (start.skip 6) .empty = some (.failure f, .empty) := by
  intro start
  obtain ⟨_, _, hmulti, hsingle, heither⟩ := comments_end_at_marks (World.call 0) standard
  obtain ⟨multi, hmulti, hbetween⟩ := hmulti "/*" "*/" rfl
  obtain ⟨single, hsingle, hline⟩ := hsingle "//" rfl
  obtain ⟨p, hp, hreads⟩ := heither single multi hsingle hmulti
  have hfirst : Text.FirstAt ['*', '/'] ['/', '*', '*', '/', '/'] ['/', '*'] ['/'] :=
    ⟨rfl, by decide⟩
  have hrun := hbetween.reads start .empty _ _ _ rfl hfirst
  refine ⟨multi, p, hmulti, hp, hrun, (hreads.succeeds_iff _ _).mpr (.inr ⟨_, _, hrun⟩), ?_⟩
  -- Behind the comment a slash is left, with which neither kind begins.
  refine hreads.fails _ _ fun hsucceeds => ?_
  obtain ⟨f, hfails⟩ := hline.fails (start.skip 6) World.empty (by decide)
  obtain ⟨g, hfails'⟩ := hbetween.fails (start.skip 6) World.empty fun body hrest => by cases hrest
  rcases (hreads.succeeds_iff _ _).mp hsucceeds with ⟨v, d, hrun'⟩ | ⟨v, d, hrun'⟩
  · cases hfails.symm.trans hrun'
  · cases hfails'.symm.trans hrun'

end CommentStyle

end Descent
