/-
  Descent/Proofs/Arithmetic.lean
  ==============================
  **Arithmetic expressions** — what the grammar for them reads.

  The grammar has two rules.  A sum is a chain of terms, a term is a chain of factors, and a
  factor is a number, a sum in parentheses, or a factor with a minus in front of it.  The
  rule for sums is used by factors, and so is the rule for factors.

  Every choice is a committed one, and so is every chain.  That is safe because the first
  character of a text tells what it is, and because blanks are taken with what stands in
  front of them: wherever something is tried, no blank stands ahead, and what is not there is
  turned down on its first character.  What may follow is told by the level
  (`Arithmetic.Follows`).

  Here the rules are expanded plainly, as deep as the text is long.
-/
import Descent.Parser.Lexeme
import Descent.Proofs.Reading
import Descent.Proofs.Reference

namespace Descent

namespace Arithmetic

/-! ### The grammar -/

def mark (ch : Char) : Parser := .token (.char (.exactly ch))

def operator (a b : Char) : Parser :=
  .token ((Parser.char (.exactly a)).or (.char (.exactly b)))

def literal : Parser :=
  .map Value.asInt (.filter (.token .number) Value.isInt64 "number out of range")

def factor (sum factor : Parser) : Parser :=
  (literal.xor (.contained sum (mark '(') (mark ')'))).xor
    (.map Value.negate (.behind (mark '-') factor))

def term (factor : Parser) : Parser :=
  .chain true .left Value.calculate (operator '*' '/') factor

def sum (factor : Parser) : Parser :=
  .chain true .left Value.calculate (operator '+' '-') (term factor)

end Arithmetic

/-! ### Expressions -/

inductive Operation where
  | add
  | sub
  | mul
  | div
  deriving DecidableEq, Repr

namespace Operation

def symbol : Operation → Char
  | add => '+'
  | sub => '-'
  | mul => '*'
  | div => '/'

/-- Quotients are rounded towards zero, and they are zero where there is none. -/
def apply : Operation → Int → Int → Int
  | add, a, b => a + b
  | sub, a, b => a - b
  | mul, a, b => a * b
  | div, a, b => if b = 0 then 0 else a.tdiv b

end Operation

inductive Expression where
  | literal (n : Nat)
  | negative (e : Expression)
  | binary (operation : Operation) (left right : Expression)
  deriving DecidableEq, Repr

namespace Expression

def value : Expression → Int
  | literal n => n
  | negative e => -e.value
  | binary operation left right => operation.apply left.value right.value

def InRange (n : Int) : Prop := -2 ^ 63 ≤ n ∧ n < 2 ^ 63

instance (n : Int) : Decidable (InRange n) := inferInstanceAs (Decidable (_ ∧ _))

def Fits : Expression → Prop
  | literal n => InRange n
  | negative e => e.Fits ∧ InRange (-e.value)
  | binary operation left right =>
    left.Fits ∧ right.Fits ∧ InRange (operation.apply left.value right.value)

instance decidableFits : (e : Expression) → Decidable e.Fits
  | literal n => inferInstanceAs (Decidable (InRange n))
  | negative e =>
    have := decidableFits e
    inferInstanceAs (Decidable (_ ∧ _))
  | binary _ left right =>
    have := decidableFits left
    have := decidableFits right
    inferInstanceAs (Decidable (_ ∧ _ ∧ _))

theorem Fits.inRange {e : Expression} (h : e.Fits) : InRange e.value := by
  cases e with
  | literal n => exact h
  | negative e => exact h.2
  | binary operation left right => exact h.2.2

/-- Where a text can stand: as an operand of a product, as an operand of a sum, or anywhere. -/
inductive Rank where
  | factor
  | term
  | sum
  deriving DecidableEq, Repr

/-- How an expression is written.  An operand that binds less than the operator is put in
    parentheses, and so is a right operand that binds no more.  Others may be put in
    parentheses too, and blanks may stand behind each number, operator and parenthesis. -/
inductive Writes : Rank → Expression → List Char → Prop
  | literal {digits blanks : List Char} (hdigits : Text.Digits digits)
    (hblanks : Text.Blank blanks) :
    Writes .factor (.literal (Nat.ofDigitChars 10 digits 0)) (digits ++ blanks)
  | parens {e : Expression} {before inside behind : List Char} (hbefore : Text.Blank before)
    (hinside : Writes .sum e inside) (hbehind : Text.Blank behind) :
    Writes .factor e ('(' :: (before ++ (inside ++ (')' :: behind))))
  | negative {e : Expression} {blanks text : List Char} (hblanks : Text.Blank blanks)
    (h : Writes .factor e text) : Writes .factor (.negative e) ('-' :: (blanks ++ text))
  | factor {e : Expression} {text : List Char} (h : Writes .factor e text) : Writes .term e text
  | product {operation : Operation} {left right : Expression} {first blanks second : List Char}
    (hoperation : operation = .mul ∨ operation = .div) (hleft : Writes .term left first)
    (hblanks : Text.Blank blanks) (hright : Writes .factor right second) :
    Writes .term (.binary operation left right)
      (first ++ (operation.symbol :: (blanks ++ second)))
  | term {e : Expression} {text : List Char} (h : Writes .term e text) : Writes .sum e text
  | sum {operation : Operation} {left right : Expression} {first blanks second : List Char}
    (hoperation : operation = .add ∨ operation = .sub) (hleft : Writes .sum left first)
    (hblanks : Text.Blank blanks) (hright : Writes .term right second) :
    Writes .sum (.binary operation left right)
      (first ++ (operation.symbol :: (blanks ++ second)))

theorem digits_toDigits (n : Nat) : Text.Digits (Nat.toDigits 10 n) where
  nonempty := Nat.toDigits_ne_nil
  all ch hch := by
    have hdigit := Nat.isDigit_of_mem_toDigits (by decide) (by decide) hch
    simp only [Char.isDigit, Bool.and_eq_true, decide_eq_true_eq] at hdigit
    simp only [Chars.isDigit, Bool.and_eq_true, decide_eq_true_eq]
    exact hdigit

theorem blank_nil : Text.Blank [] := List.forall_mem_nil _

theorem exists_writes_factor (e : Expression) : ∃ text, Writes .factor e text := by
  induction e with
  | literal n =>
    have hwrites := Writes.literal (digits_toDigits n) blank_nil
    rw [Nat.ofDigitChars_ten_toDigits] at hwrites
    exact ⟨_, hwrites⟩
  | negative e ih =>
    obtain ⟨text, htext⟩ := ih
    exact ⟨_, .negative blank_nil htext⟩
  | binary operation left right ihl ihr =>
    obtain ⟨first, hfirst⟩ := ihl
    obtain ⟨second, hsecond⟩ := ihr
    have hsum : ∃ text, Writes .sum (.binary operation left right) text := by
      cases operation with
      | add => exact ⟨_, .sum (.inl rfl) (.term (.factor hfirst)) blank_nil (.factor hsecond)⟩
      | sub => exact ⟨_, .sum (.inr rfl) (.term (.factor hfirst)) blank_nil (.factor hsecond)⟩
      | mul => exact ⟨_, .term (.product (.inl rfl) (.factor hfirst) blank_nil hsecond)⟩
      | div => exact ⟨_, .term (.product (.inr rfl) (.factor hfirst) blank_nil hsecond)⟩
    obtain ⟨text, htext⟩ := hsum
    exact ⟨_, .parens blank_nil htext blank_nil⟩

theorem exists_writes (e : Expression) : ∃ text, Writes .sum e text := by
  obtain ⟨text, htext⟩ := e.exists_writes_factor
  exact ⟨text, .term (.factor htext)⟩

end Expression

/-! ### Numerals -/

namespace Text

variable {digits : List Char}

theorem digitsValue_cons (n : Nat) (ch : Char) (digits : List Char) :
    digitsValue n (ch :: digits) = digitsValue (n * 10 + (ch.toNat - 0x30)) digits := by
  rw [digitsValue.eq_def]

theorem digitsValue_eq (digits : List Char) (n : Nat) :
    digitsValue n digits = Nat.ofDigitChars 10 digits n := by
  induction digits generalizing n with
  | nil => rfl
  | cons ch digits ih =>
    have hcons : Nat.ofDigitChars 10 (ch :: digits) n =
        Nat.ofDigitChars 10 digits (10 * n + (ch.toNat - '0'.toNat)) := Nat.ofDigitChars_cons
    rw [digitsValue_cons, ih, hcons, Nat.mul_comm]
    rfl

theorem readInteger_digits (h : Digits digits) :
    readInteger digits = some (Nat.ofDigitChars 10 digits 0 : Int) := by
  obtain ⟨ch, more, rfl⟩ := List.exists_cons_of_ne_nil h.nonempty
  have hread : readDigits (ch :: more) = some (Nat.ofDigitChars 10 (ch :: more) 0) := by
    rw [readDigits, List.all_eq_true.mpr h.all, digitsValue_eq]
    rfl
  have hdigit : Chars.isDigit ch = true := h.all ch List.mem_cons_self
  have hminus : ch ≠ '-' := by
    rintro rfl
    exact absurd hdigit (by decide)
  have hplus : ch ≠ '+' := by
    rintro rfl
    exact absurd hdigit (by decide)
  rw [readInteger, hread]
  · rfl
  · rintro _ ⟨⟩
    exact hminus rfl
  · rintro _ ⟨⟩
    exact hplus rfl

theorem readInt64_digits (h : Digits digits)
    (hfits : Expression.InRange (Nat.ofDigitChars 10 digits 0)) :
    readInt64 digits = some (Int64.ofInt (Nat.ofDigitChars 10 digits 0)) := by
  rw [readInt64, readInteger_digits h, Option.bind_some, if_pos]
  obtain ⟨hlow, hhigh⟩ := hfits
  exact ⟨hlow, Int.le_sub_one_of_lt hhigh⟩

end Text

/-! ### What may follow -/

namespace Arithmetic

open Expression

variable {σ : Type} [Traced σ] {call : Handle → Matcher σ} {s : σ} {rank : Rank}
  {digits blanks before inside behind text rest : List Char} {ch a b : Char} {v : Value}
  {p q : Parser}

theorem noBlankAhead_cons (hch : ¬ Chars.isSpace ch = true) (more : List Char) :
    Text.NoBlankAhead (ch :: more) := by
  rintro _ ⟨⟩
  exact hch

theorem noBlankAhead_of_writes {e : Expression} (h : Writes rank e text) (rest : List Char) :
    Text.NoBlankAhead (text ++ rest) := by
  induction h generalizing rest with
  | literal hdigits _ =>
    rw [List.append_assoc]
    exact hdigits.noBlankAhead.append hdigits.nonempty
  | parens | negative => exact noBlankAhead_cons (by decide) _
  | factor _ ih | term _ ih => exact ih rest
  | product _ _ _ _ ih _ | sum _ _ _ _ ih _ =>
    rw [List.append_assoc]
    exact ih _

def follow : Rank → List Char
  | .factor => ['+', '-', '*', '/', ')']
  | .term => ['+', '-', ')']
  | .sum => [')']

def Follows (rank : Rank) (rest : List Char) : Prop := ∀ ch ∈ rest.head?, ch ∈ follow rank

theorem Follows.factor (h : Follows rank rest) : Follows .factor rest := by
  have hsubset : follow rank ⊆ follow .factor := by
    cases rank <;> decide
  exact fun ch hch => hsubset (h ch hch)

theorem Follows.term_of_sum (h : Follows .sum rest) : Follows .term rest := by
  have hsubset : follow .sum ⊆ follow .term := by decide
  exact fun ch hch => hsubset (h ch hch)

theorem Follows.noBlankAhead (h : Follows rank rest) : Text.NoBlankAhead rest := by
  have hnone : (follow .factor).all (!Chars.isSpace ·) = true := by decide
  intro ch hch
  simpa using List.all_eq_true.mp hnone ch (h.factor ch hch)

theorem Follows.noDigitAhead (h : Follows rank rest) : Text.NoDigitAhead rest := by
  have hnone : (follow .factor).all (!Chars.isDigit ·) = true := by decide
  intro ch hch
  simpa using List.all_eq_true.mp hnone ch (h.factor ch hch)

theorem symbol_not_space (operation : Operation) : ¬ Chars.isSpace operation.symbol = true := by
  cases operation <;> decide

theorem follows_factor_symbol (operation : Operation) (more : List Char) :
    Follows .factor (operation.symbol :: more) := by
  rintro _ ⟨⟩
  cases operation <;> decide

theorem follows_term_symbol (h : ch = '+' ∨ ch = '-') (more : List Char) :
    Follows .term (ch :: more) := by
  rintro _ ⟨⟩
  rcases h with rfl | rfl
  · decide
  · decide

/-! ### Numbers, marks and operators -/

theorem literal_reads (hdigits : Text.Digits digits) (hblanks : Text.Blank blanks)
    (hfits : InRange (Nat.ofDigitChars 10 digits 0)) (hrest : Follows rank rest) :
    (literal.matcher call).Reads s (digits ++ blanks) rest
      (.int (Int64.ofInt (Nat.ofDigitChars 10 digits 0))) := by
  have hend : Text.NoDigitAhead (blanks ++ rest) := by
    cases blanks with
    | nil => exact hrest.noDigitAhead
    | cons ch blanks =>
      rintro _ ⟨⟩ hdigit
      exact Text.not_isSpace_of_isDigit hdigit (hblanks ch List.mem_cons_self)
  have hread := Text.readInt64_digits hdigits hfits
  have htoken : (Parser.number.token.matcher call).Reads s (digits ++ blanks) rest
      (.str (String.ofList digits)) :=
    Parser.token_reads (hdigits.noBlankAhead.append hdigits.nonempty)
      (Parser.number_reads hdigits hend) hblanks hrest.noBlankAhead
  have hkeep : Value.isInt64 (.str (String.ofList digits)) = true := by
    rw [Value.isInt64, Value.chars, String.toList_ofList, hread]
    rfl
  have hvalue : Value.asInt (.str (String.ofList digits)) =
      .int (Int64.ofInt (Nat.ofDigitChars 10 digits 0)) := by
    rw [Value.asInt, Value.chars, String.toList_ofList, hread]
    rfl
  rw [← hvalue]
  exact (htoken.filter _ hkeep).map Value.asInt

theorem literal_declines (hdigit : Text.NoDigitAhead rest) (hblank : Text.NoBlankAhead rest) :
    (literal.matcher call).Declines s rest := by
  have hnumber : (Parser.number.matcher call).Declines s rest := by
    intro c hc
    apply Parser.number_refuses
    rw [hc]
    exact hdigit
  exact ((Parser.token_declines hblank hnumber).filter _ _).map Value.asInt

theorem mark_reads (hch : ¬ Chars.isSpace ch = true) (hblanks : Text.Blank blanks)
    (hend : Text.NoBlankAhead rest) :
    ((mark ch).matcher call).Reads s (ch :: blanks) rest (.char ch) := by
  have hstart : Text.NoBlankAhead ([ch] ++ (blanks ++ rest)) := noBlankAhead_cons hch _
  exact Parser.token_reads hstart (Parser.char_reads (decide_eq_true rfl)) hblanks hend

theorem mark_declines (hch : ch ∉ rest.head?) (hblank : Text.NoBlankAhead rest) :
    ((mark ch).matcher call).Declines s rest := by
  apply Parser.token_declines hblank
  apply Parser.char_declines
  intro x hx haccepts
  obtain rfl : x = ch := of_decide_eq_true haccepts
  exact hch hx

theorem operator_reads (hch : ch = a ∨ ch = b) (hspace : ¬ Chars.isSpace ch = true)
    (hblanks : Text.Blank blanks) (hend : Text.NoBlankAhead rest) :
    ((operator a b).matcher call).Reads s (ch :: blanks) rest (.char ch) := by
  have hstart : Text.NoBlankAhead ([ch] ++ (blanks ++ rest)) := noBlankAhead_cons hspace _
  refine Parser.token_reads hstart ?_ hblanks hend
  have hsecond : ((Parser.char (.exactly ch)).matcher call).Reads s [ch] (blanks ++ rest)
      (.char ch) := Parser.char_reads (decide_eq_true rfl)
  by_cases hfirst : ch = a
  · subst hfirst
    exact hsecond.choice (List.cons_ne_nil _ _)
  · obtain rfl : ch = b := hch.resolve_left hfirst
    refine Matcher.Declines.choice ?_ hsecond
    apply Parser.char_declines
    rintro _ ⟨⟩ haccepts
    exact hfirst (of_decide_eq_true haccepts)

theorem operator_declines (ha : a ∉ rest.head?) (hb : b ∉ rest.head?)
    (hblank : Text.NoBlankAhead rest) : ((operator a b).matcher call).Declines s rest := by
  have hchar : ∀ ch ∉ rest.head?, ((Parser.char (.exactly ch)).matcher call).Declines s rest := by
    intro ch hch
    apply Parser.char_declines
    intro x hx haccepts
    obtain rfl : x = ch := of_decide_eq_true haccepts
    exact hch hx
  exact Parser.token_declines hblank ((hchar a ha).either (hchar b hb))

/-! ### Factors -/

theorem factor_reads_literal (hdigits : Text.Digits digits) (hblanks : Text.Blank blanks)
    (hfits : InRange (Nat.ofDigitChars 10 digits 0)) (hrest : Follows rank rest) :
    ((factor p q).matcher call).Reads s (digits ++ blanks) rest
      (.int (Int64.ofInt (Nat.ofDigitChars 10 digits 0))) := by
  have hne := List.append_ne_nil_of_left_ne_nil hdigits.nonempty blanks
  exact ((literal_reads hdigits hblanks hfits hrest).choice hne).choice hne

theorem factor_reads_parens (hbefore : Text.Blank before) (hbehind : Text.Blank behind)
    (hstart : Text.NoBlankAhead (inside ++ (')' :: (behind ++ rest))))
    (hinside : (p.matcher call).Reads s inside (')' :: (behind ++ rest)) v)
    (hrest : Follows rank rest) :
    ((factor p q).matcher call).Reads s
      ('(' :: (before ++ (inside ++ (')' :: behind)))) rest v := by
  have hclosing : ((mark ')').matcher call).Reads s (')' :: behind) rest (.char ')') :=
    mark_reads (by decide) hbehind hrest.noBlankAhead
  have hbody : ((p.before (mark ')')).matcher call).Reads s (inside ++ (')' :: behind)) rest v :=
    (hinside.and hclosing).map Value.first
  have hopening : ((mark '(').matcher call).Reads s ('(' :: before)
      ((inside ++ (')' :: behind)) ++ rest) (.char '(') := by
    apply mark_reads (by decide) hbefore
    rw [List.append_assoc]
    exact hstart
  have hcontained := (hopening.and hbody).map Value.second
  have hnone : (literal.matcher call).Declines s
      ('(' :: before ++ (inside ++ (')' :: behind)) ++ rest) := by
    apply literal_declines
    · rintro _ ⟨⟩
      decide
    · exact noBlankAhead_cons (by decide) _
  exact (hnone.choice hcontained).choice (List.cons_ne_nil _ _)

theorem factor_reads_negative (hblanks : Text.Blank blanks)
    (hstart : Text.NoBlankAhead (text ++ rest))
    (htext : (q.matcher call).Reads s text rest v) :
    ((factor p q).matcher call).Reads s ('-' :: (blanks ++ text)) rest
      v.negate := by
  have hminus : ((mark '-').matcher call).Reads s ('-' :: blanks) (text ++ rest) (.char '-') :=
    mark_reads (by decide) hblanks hstart
  have hblank : Text.NoBlankAhead ('-' :: blanks ++ text ++ rest) :=
    noBlankAhead_cons (by decide) _
  have hnone : (literal.matcher call).Declines s ('-' :: blanks ++ text ++ rest) := by
    apply literal_declines _ hblank
    rintro _ ⟨⟩
    decide
  have hopening : ((mark '(').matcher call).Declines s ('-' :: blanks ++ text ++ rest) := by
    apply mark_declines _ hblank
    rintro ⟨⟩
  have hneither : ((literal.xor (.contained p (mark '(') (mark ')'))).matcher call).Declines s
      ('-' :: blanks ++ text ++ rest) := hnone.either (hopening.and.map Value.second)
  exact hneither.choice (((hminus.and htext).map Value.second).map Value.negate)

/-! ### Values -/

def word (e : Expression) : Value := .int (Int64.ofInt e.value)

theorem quotient_ofInt {a b : Int} (ha : InRange a) (hb : InRange b)
    (hquotient : InRange (Operation.div.apply a b)) :
    Value.quotient (Int64.ofInt a) (Int64.ofInt b) = Int64.ofInt (Operation.div.apply a b) := by
  have hleft : (Int64.ofInt a).toInt = a := Int64.toInt_ofInt_of_le ha.1 ha.2
  have hright : (Int64.ofInt b).toInt = b := Int64.toInt_ofInt_of_le hb.1 hb.2
  rw [Value.quotient]
  by_cases hzero : b = 0
  · subst hzero
    rfl
  · have hdiv : Operation.div.apply a b = a.tdiv b := if_neg hzero
    rw [hdiv] at hquotient ⊢
    rw [if_neg]
    · exact (Int64.ofInt_tdiv ha.1 (Int.le_sub_one_of_lt ha.2) hb.1
        (Int.le_sub_one_of_lt hb.2)).symm
    · rintro (hright' | ⟨hleast, hminus⟩)
      · rw [hright'] at hright
        exact hzero hright.symm
      · -- The one quotient that is out of range.
        rw [hleast] at hleft
        rw [hminus] at hright
        subst hleft hright
        exact absurd hquotient.2 (by decide)

theorem calculate_word {operation : Operation} {left right : Expression}
    (hfits : (Expression.binary operation left right).Fits) :
    Value.calculate (.char operation.symbol) (word left) (word right) =
      word (.binary operation left right) := by
  obtain ⟨hleft, hright, hrange⟩ := hfits
  rw [word, word, word, Expression.value]
  cases operation with
  | add => exact congrArg Value.int (Int64.ofInt_add _ _).symm
  | sub => exact congrArg Value.int (Int64.ofInt_sub _ _).symm
  | mul => exact congrArg Value.int (Int64.ofInt_mul _ _).symm
  | div =>
    exact congrArg Value.int (quotient_ofInt hleft.inRange hright.inRange hrange)

/-- An operator with an operand makes a chain longer, and the value that of the operation. -/
theorem chained_binary {operation : Operation} {left right : Expression}
    {first second : List Char} (hfits : (Expression.binary operation left right).Fits)
    (hsign : operation.symbol = a ∨ operation.symbol = b) (hblanks : Text.Blank blanks)
    (hstart : Text.NoBlankAhead (second ++ rest))
    (hfirst : Matcher.Chained Value.calculate ((operator a b).matcher call) (p.matcher call) s
      first (operation.symbol :: (blanks ++ second) ++ rest) (word left))
    (hsecond : (p.matcher call).Reads s second rest (word right)) :
    Matcher.Chained Value.calculate ((operator a b).matcher call) (p.matcher call) s
      (first ++ (operation.symbol :: (blanks ++ second))) rest
      (word (.binary operation left right)) := by
  rw [← calculate_word hfits]
  refine hfirst.snoc ?_ (List.cons_ne_nil _ _)
  exact (operator_reads hsign (symbol_not_space operation) hblanks hstart).and hsecond

end Arithmetic

/-! ### Expanding the rules -/

namespace World

open Arithmetic Expression

variable {e f : RuleId} {w : World} {n : Nat} {x : Expression} {rank : Rank} {text rest : List Char}

/-- The rules have the bodies that the grammar gives them. -/
structure HasArithmetic (e f : RuleId) (w : World) : Prop where
  sum : (w.book.slot e).body = some (sum (.rule ⟨f, true⟩))
  factor : (w.book.slot f).body = some (factor (.rule ⟨e, false⟩) (.rule ⟨f, false⟩))

theorem rule_reads {h : Handle} {body : Parser} {v : Value}
    (hslot : (w.book.slot h.rule).body = some body)
    (hbody : (body.matcher (expand n)).Reads w text rest v) :
    ((Parser.rule h).matcher (expand (n + 1))).Reads w text rest v := by
  intro c hc
  exact (expand_of_body hslot).trans (hbody c hc)

/-- What it means that a text is read, for each place where it can stand.  For a term or a
    sum that says nothing of where it ends: an operator may follow that continues it. -/
def Evaluates (f : RuleId) (w : World) (n : Nat) (text : List Char) (v : Value) : Rank → Prop
  | .factor => ∀ strong rest, Follows .factor rest →
    ((Parser.rule ⟨f, strong⟩).matcher (expand n)).Reads w text rest v
  | .term => ∀ rest, Follows .factor rest →
    Matcher.Chained Value.calculate ((operator '*' '/').matcher (expand n))
      ((Parser.rule ⟨f, true⟩).matcher (expand n)) w text rest v
  | .sum => ∀ rest, Follows .term rest →
    Matcher.Chained Value.calculate ((operator '+' '-').matcher (expand n))
      ((term (.rule ⟨f, true⟩)).matcher (expand n)) w text rest v

theorem Evaluates.term_reads {v : Value} (h : Evaluates f w n text v .term)
    (hrest : Follows .term rest) :
    ((term (.rule ⟨f, true⟩)).matcher (expand n)).Reads w text rest v := by
  have hend : ((operator '*' '/').matcher (expand n)).Declines w rest :=
    operator_declines (fun hch => absurd (hrest _ hch) (by decide))
      (fun hch => absurd (hrest _ hch) (by decide)) hrest.noBlankAhead
  exact (h rest hrest.factor).reads hend.and.halts

theorem Evaluates.sum_reads {v : Value} (h : Evaluates f w n text v .sum)
    (hrest : Follows .sum rest) :
    ((sum (.rule ⟨f, true⟩)).matcher (expand n)).Reads w text rest v := by
  have hend : ((operator '+' '-').matcher (expand n)).Declines w rest :=
    operator_declines (fun hch => absurd (hrest _ hch) (by decide))
      (fun hch => absurd (hrest _ hch) (by decide)) hrest.noBlankAhead
  exact (h rest hrest.term_of_sum).reads hend.and.halts

/-- **What is written for an expression is read for its value.** -/
theorem evaluates_of_writes (hw : HasArithmetic e f w) (h : Writes rank x text) (hfits : x.Fits)
    (hdepth : text.length ≤ n) : Evaluates f w n text (word x) rank := by
  induction h generalizing n with
  | @literal digits blanks hdigits hblanks =>
    intro strong rest hrest
    have hpos : 0 < digits.length := List.length_pos_of_ne_nil hdigits.nonempty
    rw [List.length_append] at hdepth
    obtain ⟨n, rfl⟩ := Nat.exists_eq_succ_of_ne_zero (by omega : n ≠ 0)
    exact rule_reads hw.factor (factor_reads_literal hdigits hblanks hfits hrest)
  | @parens x before inside behind hbefore hinside hbehind ih =>
    intro strong rest hrest
    -- One expansion for the factor, and one for the sum in it.
    simp only [List.length_cons, List.length_append] at hdepth
    obtain ⟨n, rfl⟩ := Nat.exists_eq_add_of_le' (by omega : 2 ≤ n)
    have hclosed : Follows .sum (')' :: (behind ++ rest)) := by
      rintro _ ⟨⟩
      decide
    have hsum := (ih hfits (by omega : inside.length ≤ n)).sum_reads hclosed
    exact rule_reads hw.factor (factor_reads_parens hbefore hbehind
      (noBlankAhead_of_writes hinside _) (rule_reads hw.sum hsum) hrest)
  | @negative x blanks text hblanks h ih =>
    intro strong rest hrest
    simp only [List.length_cons, List.length_append] at hdepth
    obtain ⟨n, rfl⟩ := Nat.exists_eq_succ_of_ne_zero (by omega : n ≠ 0)
    have hfactor := ih hfits.1 (by omega : text.length ≤ n) false rest hrest
    have hvalue : word (.negative x) = (word x).negate :=
      congrArg Value.int (Int64.ofInt_neg x.value)
    rw [hvalue]
    exact rule_reads hw.factor
      (factor_reads_negative hblanks (noBlankAhead_of_writes h rest) hfactor)
  | factor h ih => exact fun rest hrest => .single (ih hfits hdepth true rest hrest)
  | @product operation left right first blanks second hoperation _ hblanks hright ihl ihr =>
    intro rest hrest
    simp only [List.length_cons, List.length_append] at hdepth
    have hsign := hoperation.imp (congrArg Operation.symbol) (congrArg Operation.symbol)
    have hfollows : Follows .factor (operation.symbol :: (blanks ++ second) ++ rest) :=
      follows_factor_symbol operation _
    have hfirst := ihl hfits.1 (by omega : first.length ≤ n) _ hfollows
    have hsecond := ihr hfits.2.1 (by omega : second.length ≤ n) true rest hrest
    exact chained_binary hfits hsign hblanks (noBlankAhead_of_writes hright rest) hfirst hsecond
  | term h ih => exact fun rest hrest => .single ((ih hfits hdepth).term_reads hrest)
  | @sum operation left right first blanks second hoperation _ hblanks hright ihl ihr =>
    intro rest hrest
    simp only [List.length_cons, List.length_append] at hdepth
    have hsign := hoperation.imp (congrArg Operation.symbol) (congrArg Operation.symbol)
    have hfollows : Follows .term (operation.symbol :: (blanks ++ second) ++ rest) :=
      follows_term_symbol hsign _
    have hfirst := ihl hfits.1 (by omega : first.length ≤ n) _ hfollows
    have hsecond := (ihr hfits.2.1 (by omega : second.length ≤ n)).term_reads hrest
    exact chained_binary hfits hsign hblanks (noBlankAhead_of_writes hright rest) hfirst hsecond

end World

end Descent
