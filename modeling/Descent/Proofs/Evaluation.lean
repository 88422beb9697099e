/-
  Descent/Proofs/Evaluation.lean
  ==============================
  **Evaluating expressions** — the grammar for them in a session.

  The rule for sums is declared first, and kept under a name.  Its body makes the rule for
  factors, which needs the rule for sums again: it looks the name up and refers to it weakly.
  So the name holds the rule for sums, the body of that one holds the rule for factors, and
  nothing else has to (`Session.step_define_arithmetic`).

  What the rules read if they are expanded plainly, a run reads under the guard as well
  (`World.parse_of_expand`).
-/
import Descent.Proofs.Arithmetic
import Descent.Proofs.HeldRules
import Descent.Proofs.Decimals
import Descent.Proofs.Transparency

namespace Descent

/-! ### Whole texts -/

namespace World

variable {w u : World} {p : Parser} {text : List Char} {v : Value} {n : Nat}

/-- What plain expansion reads, parsing reads. -/
theorem parse_of_expand
    (h : ∀ u, SameRules w u → (p.matcher (expand n)).Reads u text [] v) :
    ∃ w', w.parse p text = some (.ok v, w') := by
  let fresh : World := { w with guard := .empty }
  let u := fresh.bindGuard text
  have hbound := sameRules_bindGuard text fresh
  have hsame : SameRules w u := ⟨hbound.book, hbound.registry⟩
  have hentries : u.guard.entries = [] := by
    rw [guard_bindGuard]
    rfl
  obtain ⟨d, -, hplain⟩ := Parser.complete_takes (c := .start text)
    ((h u hsame).takes (List.append_nil text).symm)
  obtain ⟨-, w', hrun⟩ := run_of_expand (.start text) hentries hplain
  refine ⟨w', ?_⟩
  rw [parse, parseLeading, runAfresh, hrun]

theorem HasArithmetic.of_sameRules {e f : RuleId} (hw : w.HasArithmetic e f)
    (h : SameRules w u) : u.HasArithmetic e f := by
  constructor
  · rw [h.book]
    exact hw.sum
  · rw [h.book]
    exact hw.factor

end World

/-! ### Building the grammar -/

namespace Arithmetic

variable {registry : Registry} {book : RuleBook} {e : RuleId}

def blueprint : Blueprint :=
  .unary sum (.recursive "factor" (.binary factor (.weak "expr") (.this "factor")))

def withFactor (book : RuleBook) (e : RuleId) : RuleBook :=
  (book.add .undefined).fill (book.nextId "factor")
    (factor (.rule ⟨e, false⟩) (.rule ⟨book.nextId "factor", false⟩))

theorem build_factor (hkept : registry.handles.lookup "expr" = some ⟨e, true⟩) (h : Handle)
    (book : RuleBook) :
    (Blueprint.binary factor (.weak "expr") (.this "factor")).build registry [("factor", h)] book =
      .ok (factor (.rule ⟨e, false⟩) (.rule h)) book := by
  simp only [Blueprint.build, bind, EStateM.bind, Builder.find, hkept]
  rfl

theorem build_blueprint (hkept : registry.handles.lookup "expr" = some ⟨e, true⟩)
    (book : RuleBook) :
    blueprint.build registry [] book =
      .ok (sum (.rule ⟨book.nextId "factor", true⟩)) (withFactor book e) := by
  have hrule : Builder.recursive "factor" []
      (fun scope => (Blueprint.binary factor (.weak "expr") (.this "factor")).build registry scope)
      book = .ok ⟨book.nextId "factor", true⟩ (withFactor book e) := by
    rw [Builder.recursive_apply, build_factor hkept]
    rfl
  have hbuild : blueprint.build registry [] = do
      let h ← Builder.recursive "factor" [] fun scope =>
        (Blueprint.binary factor (.weak "expr") (.this "factor")).build registry scope
      return sum (.rule h) := by
    rw [blueprint, Blueprint.build, Blueprint.build, bind_assoc]
    rfl
  simp only [hbuild, bind, EStateM.bind, hrule]
  rfl

theorem slot_withFactor_of_lt (he : e.index < book.length) :
    (withFactor book e).slot e = book.slot e := by
  have hne : e.index ≠ (book.nextId "factor").index := Nat.ne_of_lt he
  rw [withFactor, RuleBook.slot_fill_of_ne hne]
  exact RuleBook.slot_append he _

theorem body_withFactor :
    ((withFactor book e).slot (book.nextId "factor")).body =
      some (factor (.rule ⟨e, false⟩) (.rule ⟨book.nextId "factor", false⟩)) := by
  rw [withFactor, RuleBook.slot_fill_self, RuleBook.slot_add_self]
  rfl

end Arithmetic

/-! ### Commands -/

theorem lookup_keepUnder {α : Type} (name : String) (a : α) (kept : List (String × α)) :
    (keepUnder name a kept).lookup name = some a := by
  rw [keepUnder, List.lookup_cons_self]

namespace Session

open Arithmetic Expression

variable {s : Session} {name : String} {rule e : RuleId} {text : List Char} {v : Value}

def Names (s : Session) (name : String) (rule : RuleId) : Prop :=
  s.world.registry.handles.lookup name = some ⟨rule, true⟩

theorem Names.reached (h : s.Names name rule) (book : RuleBook) :
    RuleBook.Reached s.world.registry.roots book rule.index :=
  .root (Registry.mem_roots_of_lookup h) rfl

/-- Behind a declaration the name is that of a rule with neither a factory nor a body. -/
theorem step_declare (s : Session) (name : String) :
    ∃ rule s', s.step (.declare name) = (.done, s') ∧ s'.Names name rule ∧
      s'.slot rule = .undefined := by
  let rule := s.world.book.nextId name
  let book := s.world.book.add .undefined
  let made := (s.withWorld { s.world with book }).keepHandle name ⟨rule, true⟩
  have hnames : made.Names name rule := lookup_keepUnder name _ _
  have hslot : book.slot rule = .undefined := RuleBook.slot_add_self _ _ _
  refine ⟨rule, made.sweep, rfl, hnames, ?_⟩
  exact (RuleBook.slot_sweep_of_reached (hnames.reached book)).trans hslot

/-- A rule without a body takes the one that is built for it. -/
theorem step_define {plan : Blueprint} {p : Parser} {book : RuleBook} (hnames : s.Names name rule)
    (hbuild : plan.build s.world.registry [] s.world.book = .ok p book)
    (hnone : (book.slot rule).isDefined = false) :
    s.step (.define name plan) =
      (.done, (s.withWorld { s.world with book := book.fill rule p }).sweep) := by
  have hlookup : s.world.registry.handles.lookup name = some ⟨rule, true⟩ := hnames
  have hdefine := RuleBook.define_of_not_isDefined (h := ⟨rule, true⟩) hnone p
  simp only [step, perform, building, withHandle, withWorld, hbuild, hlookup, hdefine]

/-- Behind the definition both rules have their bodies, and they are there: the name holds
    the one for sums, and its body the one for factors. -/
theorem step_define_arithmetic (hnames : s.Names "expr" e) (hslot : s.slot e = .undefined) :
    ∃ f s', s.step (.define "expr" blueprint) = (.done, s') ∧ s'.Names "expr" e ∧
      s'.world.HasArithmetic e f := by
  let f := s.world.book.nextId "factor"
  have he : e.index < s.world.book.length :=
    RuleBook.index_lt_of_alive (congrArg Slot.alive hslot)
  have hbuilt : (withFactor s.world.book e).slot e = .undefined :=
    (slot_withFactor_of_lt he).trans hslot
  let book := (withFactor s.world.book e).fill e (sum (.rule ⟨f, true⟩))
  have hsum : book.slot e = .defined (sum (.rule ⟨f, true⟩)) := by
    rw [RuleBook.slot_fill_self, hbuilt]
    rfl
  have hfactor : (book.slot f).body = some (factor (.rule ⟨e, false⟩) (.rule ⟨f, false⟩)) := by
    have hne : f.index ≠ e.index := Nat.ne_of_gt he
    rw [RuleBook.slot_fill_of_ne hne]
    exact body_withFactor
  have hreached := hnames.reached book
  -- The chain for sums has the only strong handle of the rule for factors.
  have hholds : book.Holds e.index f.index := by
    refine RuleBook.holds_iff.mpr ⟨⟨f, true⟩, ?_, rfl⟩
    rw [hsum]
    exact List.mem_singleton_self _
  have hnone : ((withFactor s.world.book e).slot e).isDefined = false := by
    rw [hbuilt]
    rfl
  refine ⟨f, _, step_define hnames (build_blueprint hnames _) hnone, hnames, ?_, ?_⟩
  · exact congrArg Slot.body ((RuleBook.slot_sweep_of_reached hreached).trans hsum)
  · have hkept := RuleBook.slot_sweep_of_reached (hreached.through hholds)
    exact (congrArg Slot.body hkept).trans hfactor

theorem step_parse {w' : World} (hnames : s.Names name rule)
    (hparse : s.world.parse (.rule ⟨rule, true⟩) text = some (.ok v, w')) :
    s.step (.parse (.kept name) text .whole) = (.whole v text, (s.withWorld w').sweep) := by
  have hlookup : s.world.registry.handles.lookup name = some ⟨rule, true⟩ := hnames
  have hbuild : (Blueprint.kept name).build s.world.registry [] s.world.book =
      .ok (.rule ⟨rule, true⟩) s.world.book := by
    simp only [Blueprint.build, bind, EStateM.bind, Builder.find, hlookup]
    rfl
  simp only [step, perform, building, hbuild, parse, withWorld, hparse]

theorem step_parse_arithmetic {f : RuleId} {x : Expression} (hnames : s.Names "expr" e)
    (hw : s.world.HasArithmetic e f) (htext : Writes .sum x text) (hfits : x.Fits) :
    ∃ s', s.step (.parse (.kept "expr") text .whole) = (.whole (word x) text, s') := by
  have hparse : ∃ w', s.world.parse (.rule ⟨e, true⟩) text = some (.ok (word x), w') := by
    apply World.parse_of_expand
    intro u hu
    have hu' := hw.of_sameRules hu
    -- Each expansion inside of another takes at least one character.
    have hevaluates := World.evaluates_of_writes hu' htext hfits (Nat.le_refl _)
    have hend : Follows .sum [] := by
      rintro _ ⟨⟩
    exact World.rule_reads hu'.sum (hevaluates.sum_reads hend)
  obtain ⟨w', hparse⟩ := hparse
  exact ⟨_, step_parse hnames hparse⟩

/-- **Expressions are evaluated.**  The grammar is declared and defined in a session, whatever
    that one keeps.  Where all values are integers of 64 bits, whatever is written for the
    expression is then parsed to its value. -/
theorem arithmetic_evaluated (s : Session) (x : Expression) (hfits : x.Fits) :
    (∃ text, Writes .sum x text) ∧
    ∀ text, Writes .sum x text → ∃ n s', n.toInt = x.value ∧
      s.runAll [.declare "expr", .define "expr" blueprint, .parse (.kept "expr") text .whole] =
        ([.done, .done, .whole (.int n) text], s') := by
  refine ⟨x.exists_writes, ?_⟩
  intro text htext
  obtain ⟨e, s₁, hdeclare, hnames, hslot⟩ := s.step_declare "expr"
  obtain ⟨f, s₂, hdefine, hnames, hw⟩ := step_define_arithmetic hnames hslot
  obtain ⟨s₃, hparse⟩ := step_parse_arithmetic hnames hw htext hfits
  refine ⟨Int64.ofInt x.value, s₃, ?_, ?_⟩
  · exact Int64.toInt_ofInt_of_le hfits.inRange.1 hfits.inRange.2
  · simp only [runAll, hdeclare, hdefine, hparse, word]

/-- `10 - 4 -(3)* -2 / 0 `, with a blank at the end. -/
theorem arithmetic_evaluated_left_to_right :
    let x : Expression := .binary .sub (.binary .sub (.literal 10) (.literal 4))
      (.binary .div (.binary .mul (.literal 3) (.negative (.literal 2))) (.literal 0))
    let text : List Char := ['1', '0', ' ', '-', ' ', '4', ' ', '-', '(', '3', ')', '*', ' ', '-',
      '2', ' ', '/', ' ', '0', ' ']
    x.Fits ∧ Writes .sum x text ∧ ∃ s',
      empty.runAll [.declare "expr", .define "expr" blueprint, .parse (.kept "expr") text .whole] =
        ([.done, .done, .whole (.int 6) text], s') := by
  intro x text
  have hfits : x.Fits := by decide
  have hliteral : ∀ digits blanks : List Char, digits ≠ [] → digits.all Chars.isDigit = true →
      blanks.all Chars.isSpace = true →
        Writes .factor (.literal (Nat.ofDigitChars 10 digits 0)) (digits ++ blanks) :=
    fun digits blanks hne hdigits hblanks =>
      .literal ⟨hne, List.all_eq_true.mp hdigits⟩ (List.all_eq_true.mp hblanks)
  have hspace : Text.Blank [' '] := List.all_eq_true.mp rfl
  have hten := hliteral ['1', '0'] [' '] (List.cons_ne_nil _ _) rfl rfl
  have hfour := hliteral ['4'] [' '] (List.cons_ne_nil _ _) rfl rfl
  have hthree := hliteral ['3'] [] (List.cons_ne_nil _ _) rfl rfl
  have htwo := hliteral ['2'] [' '] (List.cons_ne_nil _ _) rfl rfl
  have hzero := hliteral ['0'] [' '] (List.cons_ne_nil _ _) rfl rfl
  have hdifference := Writes.sum (.inr rfl) (.term (.factor hten)) hspace (.factor hfour)
  have hparens := Writes.parens blank_nil (.term (.factor hthree)) blank_nil
  have hproduct := Writes.product (.inl rfl) (.factor hparens) hspace (.negative blank_nil htwo)
  have hquotient := Writes.product (.inr rfl) hproduct hspace hzero
  have htext : Writes .sum x text := .sum (.inr rfl) hdifference blank_nil hquotient
  obtain ⟨-, hevaluated⟩ := arithmetic_evaluated empty x hfits
  obtain ⟨n, s', hn, hrun⟩ := hevaluated text htext
  obtain rfl : n = 6 := Int64.toInt_inj.mp hn
  exact ⟨hfits, htext, s', hrun⟩

end Session

end Descent
