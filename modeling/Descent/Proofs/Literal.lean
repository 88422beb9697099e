/-
  Descent/Proofs/Literal.lean
  ===========================
  **Reading a literal** — how far a text stands for it, and what is said where it stops.

  A literal is read by counting: characters of the text and of the literal are compared in
  turn, and the count says where the reader stops.  That count is the longest leading run in
  which each character stands for the one at the same place (`Text.longestRun_agreeing`), and
  the text is read if the run is the whole literal.

  Nothing here depends on bytes.  In the other case the text may be longer or shorter in
  bytes than the literal, so the value is the text, and the cursor moves by characters.
-/
import Descent.Matcher
import Descent.Proofs.Advance

namespace Descent

namespace Text

variable {same : Char → Char → Prop} {text literal : List Char} {a b : Char} {n : Nat}

/-- The first `n` characters of a text stand for the first `n` of a literal, one by one. -/
structure Agrees (same : Char → Char → Prop) (text literal : List Char) (n : Nat) : Prop where
  le_text : n ≤ text.length
  le_literal : n ≤ literal.length
  same : ∀ i < n, ∀ a b, text[i]? = some a → literal[i]? = some b → same a b

/-- No longer leading run of a text stands for one of a literal. -/
structure LongestRun (same : Char → Char → Prop) (text literal : List Char) (n : Nat) : Prop where
  agrees : Agrees same text literal n
  longest : ∀ m, Agrees same text literal m → m ≤ n

theorem agrees_zero : Agrees same text literal 0 :=
  ⟨Nat.zero_le _, Nat.zero_le _, fun _ hi => absurd hi (Nat.not_lt_zero _)⟩

theorem agrees_succ :
    Agrees same (a :: text) (b :: literal) (n + 1) ↔ same a b ∧ Agrees same text literal n := by
  constructor
  · intro h
    refine ⟨h.same 0 (Nat.succ_pos n) a b rfl rfl, ?_⟩
    refine ⟨Nat.le_of_succ_le_succ h.le_text, Nat.le_of_succ_le_succ h.le_literal, ?_⟩
    intro i hi
    exact h.same (i + 1) (Nat.succ_lt_succ hi)
  · rintro ⟨hsame, h⟩
    refine ⟨Nat.succ_le_succ h.le_text, Nat.succ_le_succ h.le_literal, ?_⟩
    rintro (_ | i) hi x y hx hy
    · cases hx
      cases hy
      exact hsame
    · exact h.same i (Nat.lt_of_succ_lt_succ hi) x y hx hy

/-- With equal characters the literal is a leading part of the text. -/
theorem agrees_eq_iff :
    Agrees (fun a b => a = b) text literal literal.length ↔ literal <+: text := by
  constructor
  · intro h
    rw [List.prefix_iff_eq_take]
    apply List.ext_getElem?
    intro i
    by_cases hi : i < literal.length
    · have ht : i < text.length := Nat.lt_of_lt_of_le hi h.le_text
      have hsame := h.same i hi _ _ (List.getElem?_eq_getElem ht) (List.getElem?_eq_getElem hi)
      rw [List.getElem?_take_of_lt hi, List.getElem?_eq_getElem hi, List.getElem?_eq_getElem ht,
        hsame]
    · rw [List.getElem?_take_eq_none (Nat.not_lt.mp hi), List.getElem?_eq_none (Nat.not_lt.mp hi)]
  · rintro ⟨more, rfl⟩
    refine ⟨by simp, Nat.le_refl _, ?_⟩
    intro i hi a b ha hb
    rw [List.getElem?_append_left hi, hb] at ha
    exact (Option.some.inj ha).symm

theorem longestRun_agreeing (same : Char → Char → Bool) (text literal : List Char) :
    LongestRun (fun a b => same a b = true) text literal (agreeing same text literal) := by
  induction text generalizing literal with
  | nil => exact ⟨agrees_zero, fun _ h => h.le_text⟩
  | cons a text ih =>
    cases literal with
    | nil => exact ⟨agrees_zero, fun _ h => h.le_literal⟩
    | cons b literal =>
      by_cases hsame : same a b = true
      · rw [agreeing, if_pos hsame]
        refine ⟨agrees_succ.mpr ⟨hsame, (ih literal).agrees⟩, ?_⟩
        rintro (_ | m) h
        · exact Nat.zero_le _
        · exact Nat.succ_le_succ ((ih literal).longest m (agrees_succ.mp h).2)
      · rw [agreeing, if_neg hsame]
        refine ⟨agrees_zero, ?_⟩
        rintro (_ | m) h
        · exact Nat.le_refl _
        · exact absurd (agrees_succ.mp h).1 hsame

end Text

/-- When a character of the text stands for one of the literal: if it is the same, or if both
    have the same small form. -/
def Stands : (ignoreCase : Bool) → Char → Char → Prop
  | false, a, b => a = b
  | true, a, b => Chars.lowered a = Chars.lowered b

theorem sameChar_iff {ignoreCase : Bool} {a b : Char} :
    sameChar ignoreCase a b = true ↔ Stands ignoreCase a b := by
  cases ignoreCase with
  | false => simp [sameChar, Stands]
  | true => simp [sameChar, Stands, Chars.sameIgnoringCase]

namespace Scanner

variable {ignoreCase : Bool} {literal : String} {rest : List Char}

theorem longestRun (ignoreCase : Bool) (literal rest : List Char) :
    Text.LongestRun (Stands ignoreCase) rest literal
      (agreeing (sameChar ignoreCase) rest literal) := by
  have hrun := Text.longestRun_agreeing (sameChar ignoreCase) rest literal
  simpa only [sameChar_iff] using hrun

theorem literal_of_agrees
    (h : Text.Agrees (Stands ignoreCase) rest literal.toList literal.toList.length) :
    Scanner.literal ignoreCase literal rest = .accept literal.toList.length
      (.str (String.ofList (rest.take literal.toList.length))) := by
  have hrun := longestRun ignoreCase literal.toList rest
  have hall : agreeing (sameChar ignoreCase) rest literal.toList = literal.toList.length :=
    Nat.le_antisymm hrun.agrees.le_literal (hrun.longest _ h)
  rw [Scanner.literal, hall, List.drop_length]

theorem literal_of_not_agrees
    (h : ¬ Text.Agrees (Stands ignoreCase) rest literal.toList literal.toList.length) :
    ∃ n next, Text.LongestRun (Stands ignoreCase) rest literal.toList n ∧
      literal.toList[n]? = some next ∧
      Scanner.literal ignoreCase literal rest =
        miss n rest (if n = 0 then literal else String.singleton next) := by
  have hrun := longestRun ignoreCase literal.toList rest
  have hless : agreeing (sameChar ignoreCase) rest literal.toList < literal.toList.length := by
    refine Nat.lt_of_le_of_ne hrun.agrees.le_literal fun hall => h ?_
    rw [← hall]
    exact hrun.agrees
  refine ⟨_, _, hrun, List.getElem?_eq_getElem hless, ?_⟩
  rw [Scanner.literal, List.drop_eq_getElem_cons hless]

end Scanner

namespace Parser

variable {σ : Type} [Traced σ] {call : Handle → Matcher σ} {ignoreCase : Bool} {literal : String}
  {c : Cursor}

/-- The failure of a literal behind `n` characters of it. -/
structure Misses (literal : String) (c : Cursor) (n : Nat) (f : Failure) : Prop where
  remainder_eq : f.remainder = c.skip n
  names_character : ∀ ch, c.rest[n]? = some ch →
    f.message = "unexpected '" ++ String.singleton ch ++ "'"
  names_end : c.rest[n]? = none → f.message = "unexpected end of input"
  expects_all : n = 0 → f.expectations = [literal]
  expects_next : ∀ next, n ≠ 0 → literal.toList[n]? = some next →
    f.expectations = [String.singleton next]

theorem misses_of_next {n : Nat} {next : Char} (hnext : literal.toList[n]? = some next) :
    Misses literal c n (.of (c.skip n) (unexpected (c.rest.drop n))
      [if n = 0 then literal else String.singleton next]) where
  remainder_eq := rfl
  names_character ch hch := by
    rw [← List.head?_drop] at hch
    obtain ⟨rest, hrest⟩ := List.head?_eq_some_iff.mp hch
    rw [hrest]
    rfl
  names_end hend := by
    rw [← List.head?_drop, List.head?_eq_none_iff] at hend
    rw [hend]
    rfl
  expects_all hzero := by
    rw [if_pos hzero]
    rfl
  expects_next next' hpos hnext' := by
    obtain rfl : next = next' := Option.some.inj (hnext.symm.trans hnext')
    rw [if_neg hpos]
    rfl

theorem matcher_literal (call : Handle → Matcher σ) (ignoreCase : Bool) (literal : String)
    (c : Cursor) (s : σ) :
    (Parser.scan (.literal ignoreCase literal)).matcher call c s =
      some (Matcher.conclude c (Scanner.literal ignoreCase literal c.rest), s) := rfl

theorem literal_of_agrees (call : Handle → Matcher σ) (s : σ)
    (h : Text.Agrees (Stands ignoreCase) c.rest literal.toList literal.toList.length) :
    (Parser.scan (.literal ignoreCase literal)).matcher call c s =
      some (.success (.str (String.ofList (c.rest.take literal.toList.length)))
        (c.skip literal.toList.length), s) := by
  rw [matcher_literal, Scanner.literal_of_agrees h]
  rfl

theorem literal_of_not_agrees (call : Handle → Matcher σ) (s : σ)
    (h : ¬ Text.Agrees (Stands ignoreCase) c.rest literal.toList literal.toList.length) :
    ∃ n f, (Parser.scan (.literal ignoreCase literal)).matcher call c s = some (.failure f, s) ∧
      n < literal.toList.length ∧ Text.LongestRun (Stands ignoreCase) c.rest literal.toList n ∧
      Misses literal c n f := by
  obtain ⟨n, next, hlongest, hnext, hverdict⟩ := Scanner.literal_of_not_agrees h
  obtain ⟨hless, -⟩ := List.getElem?_eq_some_iff.mp hnext
  refine ⟨n, _, ?_, hless, hlongest, misses_of_next hnext⟩
  rw [matcher_literal, hverdict]
  rfl

/-- At each cursor the parser reads a text whose characters stand for those of the literal,
    and over it; elsewhere it fails behind the longest run of such characters. -/
structure ReadsLiteral (call : Handle → Matcher σ) (same : Char → Char → Prop) (literal : String)
    (p : Parser) : Prop where
  succeeds_iff : ∀ c s, (∃ v d, p.matcher call c s = some (.success v d, s)) ↔
    Text.Agrees same c.rest literal.toList literal.toList.length
  reads : ∀ c s v d, p.matcher call c s = some (.success v d, s) →
    v = .str (String.ofList (c.sliceTo d)) ∧ d = c.skip literal.toList.length ∧
      c.sliceTo d = c.rest.take literal.toList.length
  fails : ∀ c s, ¬ Text.Agrees same c.rest literal.toList literal.toList.length →
    ∃ n f, p.matcher call c s = some (.failure f, s) ∧ n < literal.toList.length ∧
      Text.LongestRun same c.rest literal.toList n ∧ Misses literal c n f

theorem readsLiteral (call : Handle → Matcher σ) (ignoreCase : Bool) (literal : String) :
    (Parser.scan (.literal ignoreCase literal)).ReadsLiteral call (Stands ignoreCase) literal := by
  have hagrees : ∀ c s v d, (Parser.scan (.literal ignoreCase literal)).matcher call c s =
      some (.success v d, s) →
      Text.Agrees (Stands ignoreCase) c.rest literal.toList literal.toList.length := by
    intro c s v d hsuccess
    by_cases hall : Text.Agrees (Stands ignoreCase) c.rest literal.toList literal.toList.length
    · exact hall
    · obtain ⟨n, f, hfails, -⟩ := literal_of_not_agrees call s hall
      cases hfails.symm.trans hsuccess
  constructor
  case succeeds_iff =>
    intro c s
    constructor
    · rintro ⟨v, d, hsuccess⟩
      exact hagrees c s v d hsuccess
    · intro hall
      exact ⟨_, _, literal_of_agrees call s hall⟩
  case reads =>
    intro c s v d hsuccess
    have hslice := (Cursor.Passes.skip literal.toList.length c).sliceTo_eq
    have hread := literal_of_agrees call s (hagrees c s v d hsuccess)
    rw [← hslice] at hread
    cases hread.symm.trans hsuccess
    exact ⟨rfl, rfl, hslice⟩
  case fails =>
    intro c s hsome
    exact literal_of_not_agrees call s hsome

/-- **A literal is read character by character.**  A literal is read where the unread text has
    at least as many characters and each stands for the one at the same place of the literal:
    it is the same, or, in any case, it has the same small form.  The value is the text itself,
    and the cursor moves over as many characters as the literal has.  Elsewhere the literal
    fails behind the longest leading run of such characters, names what stands there, and asks
    for the whole literal if the run is empty, else for the next character of it. -/
theorem literals_read (call : Handle → Matcher σ) (literal : String) :
    (Parser.string literal).ReadsLiteral call (fun a b => a = b) literal ∧
    (Parser.stringIgnoringCase literal).ReadsLiteral call
      (fun a b => Chars.lowered a = Chars.lowered b) literal :=
  ⟨readsLiteral call false literal, readsLiteral call true literal⟩

end Parser

end Descent
