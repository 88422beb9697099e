/-
  Descent/Proofs/Lossless.lean
  ============================
  **Nothing gets lost** — grammars whose values spell what was read.

  The characters of a value can be read off from left to right, whatever its shape
  (`Value.chars`).  A matcher spells if they are always the characters that it passed
  (`Matcher.Spells`).  Combinators that drop values still spell, for they only drop those
  of parsers that passed nothing: a last round of a repetition without progress, a first
  alternative that a second one supersedes, a look ahead, the end of the text.

  Outcomes that the guard has kept need no argument of their own: a success is one of
  plain expansion (`World.call_faithful`), and there each body is run at the cursor that
  the rule is used at.
-/
import Descent.Parser.Lexeme
import Descent.Proofs.Faithful
import Descent.Proofs.Forward
import Descent.Proofs.Kinship

namespace Descent

/-! ### The characters of reshaped values -/

namespace Value

theorem chars_char (ch : Char) : (Value.char ch).chars = [ch] := rfl

theorem chars_list (items : List Value) : (Value.list items).chars = charsAll items := rfl

theorem chars_pair (a b : Value) : (Value.pair a b).chars = a.chars ++ b.chars := rfl

theorem chars_present (v : Value) : (Value.present v).chars = v.chars := rfl

theorem chars_span (v : Value) (span : Span) : (Value.span v span).chars = v.chars := rfl

theorem chars_str (text : List Char) : (Value.str (String.ofList text)).chars = text :=
  String.toList_ofList

theorem charsAll_cons (v : Value) (vs : List Value) :
    charsAll (v :: vs) = v.chars ++ charsAll vs := rfl

theorem charsAll_singleton (v : Value) : charsAll [v] = v.chars := List.append_nil _

theorem charsAll_append (first second : List Value) :
    charsAll (first ++ second) = charsAll first ++ charsAll second := by
  induction first with
  | nil => rfl
  | cons v first ih => rw [List.cons_append, charsAll_cons, charsAll_cons, ih, List.append_assoc]

theorem charsAll_reverse_cons (v : Value) (found : List Value) :
    charsAll (v :: found).reverse = charsAll found.reverse ++ v.chars := by
  rw [List.reverse_cons, charsAll_append, charsAll_singleton]

theorem charsAll_items (v : Value) : charsAll v.items = v.chars := by
  unfold items
  split
  · rfl
  · exact charsAll_singleton _

theorem chars_wrap (v : Value) : v.wrap.chars = v.chars := charsAll_singleton v

theorem chars_joinPair (v : Value) : v.joinPair.chars = v.chars := by
  unfold joinPair
  split
  · rw [chars_list, chars_pair, charsAll_append, charsAll_items, charsAll_items]
  · rfl

theorem chars_consPair (v : Value) : v.consPair.chars = v.chars := by
  unfold consPair
  split
  · rw [chars_list, chars_pair, charsAll_cons, charsAll_items]
  · rfl

def IsPair (V W : Value → Prop) (v : Value) : Prop := ∃ a b, v = .pair a b ∧ V a ∧ W b

end Value

/-! ### One combinator at a time -/

namespace Matcher

variable {σ : Type}

/-- If the outcome is a success, then its value is one of `V` and spells what was passed
    since `c`. -/
def Spelled (I : σ → Prop) (V : Value → Prop) (c : Cursor) (x : Option (Reply × σ)) : Prop :=
  ∀ r s, x = some (r, s) → I s ∧ ∀ v d, r = .success v d → V v ∧ c.Passes v.chars d

def Spells (I : σ → Prop) (V : Value → Prop) (m : Matcher σ) : Prop :=
  ∀ c s, I s → Spelled I V c (m c s)

def anyValue : Value → Prop := fun _ => True

variable {I : σ → Prop} {V W : Value → Prop} {c e : Cursor} {s : σ}

namespace Spelled

theorem succeed {v : Value} {d : Cursor} (hv : V v) (hd : c.Passes v.chars d) (hs : I s) :
    Spelled I V c (Matcher.succeed v d s) := by
  rintro r s' heq
  cases heq
  refine ⟨hs, ?_⟩
  rintro v' d' heq
  cases heq
  exact ⟨hv, hd⟩

theorem fail {f : Failure} (hs : I s) : Spelled I V c (Matcher.fail f s) := by
  rintro r s' heq
  cases heq
  exact ⟨hs, fun _ _ heq => nomatch heq⟩

theorem endless : Spelled I V c (none : Option (Reply × σ)) := fun _ _ heq => nomatch heq

theorem cond {b : Prop} [Decidable b] {yes no : Option (Reply × σ)} (hyes : Spelled I V c yes)
    (hno : Spelled I V c no) : Spelled I V c (if b then yes else no) := by
  by_cases hb : b
  · rw [if_pos hb]
    exact hyes
  · rw [if_neg hb]
    exact hno

theorem handle {m : Matcher σ} {onSuccess : Value → Cursor → σ → Option (Reply × σ)}
    {onFailure : Failure → σ → Option (Reply × σ)} (hm : Spelled I V e (m e s))
    (hsuccess : ∀ v d s', V v → e.Passes v.chars d → I s' → Spelled I W c (onSuccess v d s'))
    (hfailure : ∀ f s', I s' → Spelled I W c (onFailure f s')) :
    Spelled I W c (m.handle e s onSuccess onFailure) := by
  rcases hrun : m e s with _ | ⟨r, s'⟩
  · rw [handle_of_none hrun]
    exact endless
  · obtain ⟨hs', hsuccess'⟩ := hm r s' hrun
    cases r with
    | success v d =>
      rw [handle_of_success hrun]
      obtain ⟨hv, hd⟩ := hsuccess' v d rfl
      exact hsuccess v d s' hv hd hs'
    | failure f =>
      rw [handle_of_failure hrun]
      exact hfailure f s' hs'
    | defect d =>
      rw [handle_of_defect hrun]
      rintro r s'' heq
      cases heq
      exact ⟨hs', fun _ _ heq => nomatch heq⟩

end Spelled

namespace Spells

variable {p q : Matcher σ}

theorem mono (hp : Spells I V p) (hvw : ∀ v, V v → W v) : Spells I W p := by
  intro c s hs r s' heq
  obtain ⟨hs', hsuccess⟩ := hp c s hs r s' heq
  refine ⟨hs', fun v d hr => ?_⟩
  obtain ⟨hv, hd⟩ := hsuccess v d hr
  exact ⟨hvw v hv, hd⟩

/-- A reader that takes the characters of its value. -/
theorem scan {read : Scanner}
    (hread : ∀ rest n v, read rest = .accept n v → V v ∧ v.chars = rest.take n) :
    Spells I V (.inspect fun c => read c.rest) := by
  intro c s hs
  rcases hverdict : read c.rest with ⟨n, v⟩ | ⟨n, message, labels⟩
  · obtain ⟨hv, hchars⟩ := hread _ n v hverdict
    have hpasses := Cursor.Passes.skip n c
    rw [← hchars] at hpasses
    simp only [inspect, hverdict, conclude]
    exact .succeed hv hpasses hs
  · simp only [inspect, hverdict, conclude]
    exact .fail hs

theorem map (f : Value → Value) (hp : Spells I V p)
    (hf : ∀ v, V v → W (f v) ∧ (f v).chars = v.chars) : Spells I W (p.map f) := by
  intro c s hs
  refine .handle (hp c s hs) (fun v d s' hv hd hs' => ?_) fun _ _ => .fail
  obtain ⟨hw, hchars⟩ := hf v hv
  exact .succeed hw (hchars ▸ hd) hs'

theorem and (hp : Spells I V p) (hq : Spells I W q) : Spells I (Value.IsPair V W) (p.and q) := by
  intro c s hs
  refine .handle (hp c s hs) (fun v d s' hv hd hs' => ?_) fun _ _ => .fail
  refine .handle (hq d s' hs') (fun w e s'' hw he hs'' => ?_) fun _ _ => .fail
  refine .succeed ⟨v, w, rfl, hv, hw⟩ ?_ hs''
  rw [Value.chars_pair]
  exact hd.trans he

theorem filter (keep : Value → Bool) (message : String) (hp : Spells I V p) :
    Spells I V (p.filter keep message) := by
  intro c s hs
  refine .handle (hp c s hs) (fun v d s' hv hd hs' => ?_) fun _ _ => .fail
  exact .cond (.succeed hv hd hs') (.fail hs')

theorem named (label : String) (hp : Spells I V p) : Spells I V (p.named label) := by
  intro c s hs
  exact .handle (hp c s hs) (fun _ _ _ => .succeed) fun _ _ => .fail

theorem text (hp : Spells I V p) : Spells I anyValue p.text := by
  intro c s hs
  refine .handle (hp c s hs) (fun v d s' _ hd hs' => ?_) fun _ _ => .fail
  refine .succeed True.intro ?_ hs'
  rw [hd.sliceTo_eq, Value.chars_str]
  exact hd

theorem positioned (hp : Spells I V p) : Spells I anyValue p.positioned := by
  intro c s hs
  refine .handle (hp c s hs) (fun v d s' _ hd hs' => ?_) fun _ _ => .fail
  refine .succeed True.intro ?_ hs'
  rw [Value.chars_span]
  exact hd

theorem optional (committed : Bool) (hp : Spells I V p) :
    Spells I anyValue (p.optional committed) := by
  intro c s hs
  refine .handle (hp c s hs) (fun v d s' _ hd hs' => ?_) fun f s' hs' => ?_
  · refine .succeed True.intro ?_ hs'
    rw [Value.chars_present]
    exact hd
  · exact .cond (.fail hs') (.succeed True.intro (.refl c) hs')

theorem absent (message : String) (labels : List String) (hp : Spells I V p) :
    Spells I (· = .unit) (p.absent message labels) := by
  intro c s hs
  exact .handle (hp c s hs) (fun _ _ _ _ _ => .fail) fun _ _ => .succeed rfl (.refl c)

/-- The value of a superseded alternative is not needed: the other one starts where it
    started. -/
theorem choice (committed : Bool) (hp : Spells I V p) (hq : Spells I V q) :
    Spells I V (.choice committed p q) := by
  intro c s hs
  refine .handle (hp c s hs) (fun v d s' hv hd hs' => ?_) fun f s' hs' => ?_
  · refine .cond ?_ (.succeed hv hd hs')
    exact .handle (hq c s' hs') (fun _ _ _ => .succeed) fun _ _ => .succeed hv hd
  · refine .cond (.fail hs') ?_
    exact .handle (hq c s' hs') (fun _ _ _ => .succeed) fun _ _ => .fail

/-! Loops keep what was passed since their start spelled by the values that were found, and
the induction is on their fuel. -/

theorem gather (committed : Bool) (hp : Spells I V p) (fuel : Nat) (found : List Value)
    (hs : I s) (he : c.Passes (Value.charsAll found.reverse) e) :
    Spelled I anyValue c (Matcher.gather committed p fuel found e s) := by
  induction fuel generalizing found e s with
  | zero => exact .endless
  | succ fuel ih =>
    have hlist : c.Passes (Value.list found.reverse).chars e := by
      rw [Value.chars_list]
      exact he
    refine .handle (hp e s hs) (fun v d s' _ hd hs' => ?_) fun f s' hs' => ?_
    · refine .cond (.succeed True.intro hlist hs') (ih (v :: found) hs' ?_)
      rw [Value.charsAll_reverse_cons]
      exact he.trans hd
    · exact .cond (.fail hs') (.succeed True.intro hlist hs')

theorem many (committed : Bool) (hp : Spells I V p) : Spells I anyValue (p.many committed) :=
  fun c _ hs => hp.gather committed _ [] hs (.refl c)

theorem trail (hq : Spells I V q) (fuel : Nat) {passed : List Char} (hs : I s)
    (he : c.Passes passed e) : Spelled I anyValue c (Matcher.trail q c fuel e s) := by
  induction fuel generalizing passed e s with
  | zero => exact .endless
  | succ fuel ih =>
    have htext : c.Passes (Value.str (String.ofList (c.sliceTo e))).chars e := by
      rw [he.sliceTo_eq, Value.chars_str]
      exact he
    refine .handle (hq e s hs) (fun v d s' _ hd hs' => ?_) fun _ _ => .succeed True.intro htext
    exact .cond (.succeed True.intro htext hs') (ih hs' (he.trans hd))

theorem identifier (hp : Spells I V p) (hq : Spells I W q) :
    Spells I anyValue (p.identifier q) := by
  intro c s hs
  exact .handle (hp c s hs) (fun v d s' _ hd hs' => hq.trail _ hs' hd) fun _ _ => .fail

section Traced

variable [Traced σ]

theorem settle (hnote : ∀ r s, I s → I (Traced.note r s)) (least most : Option Nat)
    (start : Cursor) (found : List Value) (stop : Option Failure) (hs : I s)
    (he : c.Passes (Value.charsAll found.reverse) e) :
    Spelled I anyValue c (Matcher.settle least most start found e stop s) := by
  refine .cond (.fail (hnote _ _ hs)) (.succeed True.intro ?_ hs)
  rw [Value.chars_list]
  exact he

theorem times (hnote : ∀ r s, I s → I (Traced.note r s)) (bounded : Bool)
    (least most : Option Nat) (start : Cursor) (hp : Spells I V p) (fuel : Nat)
    (found : List Value) (hs : I s) (he : c.Passes (Value.charsAll found.reverse) e) :
    Spelled I anyValue c
      (Matcher.times bounded p (Matcher.settle least most start) fuel found e s) := by
  induction fuel generalizing found e s with
  | zero => exact .cond (settle hnote least most start found none hs he) .endless
  | succ fuel ih =>
    refine .handle (hp e s hs) (fun v d s' _ hd hs' => ih (v :: found) hs' ?_)
      fun f s' hs' => settle hnote least most start found (some f) hs' he
    rw [Value.charsAll_reverse_cons]
    exact he.trans hd

theorem repeated (hnote : ∀ r s, I s → I (Traced.note r s)) (least most : Option Nat)
    (hp : Spells I V p) : Spells I anyValue (p.repeated least most) :=
  fun c _ hs => hp.times hnote _ least most c _ [] hs (.refl c)

end Traced

end Spells

end Matcher

/-! ### Primitive readers -/

namespace Scanner

variable {rest : List Char} {n : Nat} {v : Value}

theorem chars_of_class {k : CharClass} (h : k.scanner rest = .accept n v) :
    v.chars = rest.take n := by
  cases rest with
  | nil => cases h
  | cons ch rest =>
    simp only [CharClass.scanner] at h
    split at h
    · cases h
      rw [Value.chars_char, List.take_succ_cons, List.take_zero]
    · cases h

theorem chars_of_literal {ignoreCase : Bool} {text : String}
    (h : literal ignoreCase text rest = .accept n v) : v.chars = rest.take n := by
  simp only [literal] at h
  split at h
  · cases h
    exact Value.chars_str _
  · cases h

theorem unit_of_endOfInput (h : endOfInput rest = .accept n v) :
    v = .unit ∧ v.chars = rest.take n := by
  simp only [endOfInput] at h
  split at h
  · cases h
    exact ⟨rfl, rfl⟩
  · cases h

end Scanner

/-! ### Lossless parsers -/

/-- The parser is put together from combinators whose values keep the text that is
    consumed, and from rules. -/
inductive Parser.Lossless : Parser → Prop where
  | char (k : CharClass) : Lossless (.char k)
  | string (s : String) : Lossless (.string s)
  | stringIgnoringCase (s : String) : Lossless (.stringIgnoringCase s)
  | number : Lossless .number
  | decimal (separator : String) : Lossless (.decimal separator)
  | lineEnd : Lossless .lineEnd
  | lineTerminator : Lossless .lineTerminator
  | endOfInput : Lossless .endOfInput
  | identifier {first tail : Parser} (hfirst : Lossless first) (htail : Lossless tail) :
    Lossless (.identifier first tail)
  | text {p : Parser} (hp : Lossless p) : Lossless (.text p)
  | not {p : Parser} (hp : Lossless p) : Lossless p.not
  | and {p q : Parser} (hp : Lossless p) (hq : Lossless q) : Lossless (.and p q)
  | concat {p q : Parser} (hp : Lossless p) (hq : Lossless q) : Lossless (p.concat q)
  | choice {p q : Parser} (committed : Bool) (hp : Lossless p) (hq : Lossless q) :
    Lossless (.choice committed p q)
  | named {p : Parser} (label : String) (hp : Lossless p) : Lossless (.named p label)
  | filter {p : Parser} (keep : Value → Bool) (message : String) (hp : Lossless p) :
    Lossless (.filter p keep message)
  | except {p e : Parser} (hp : Lossless p) (he : Lossless e) : Lossless (p.except e)
  | complete {p : Parser} (hp : Lossless p) : Lossless p.complete
  | positioned {p : Parser} (hp : Lossless p) : Lossless (.positioned p)
  | once {p : Parser} (hp : Lossless p) : Lossless p.once
  | many {p : Parser} (committed : Bool) (hp : Lossless p) : Lossless (.many committed p)
  | atLeastOnce {p : Parser} (committed : Bool) (hp : Lossless p) :
    Lossless (.atLeastOnce committed p)
  | repeated {p : Parser} (least most : Option Nat) (hp : Lossless p) :
    Lossless (.repeated p least most)
  | optional {p : Parser} (committed : Bool) (hp : Lossless p) :
    Lossless (.optional committed p)
  | rule (h : Handle) : Lossless (.rule h)
  | broken (e : Error) : Lossless e.brokenBody

theorem kinship_lossless : Kinship (Parser.only Parser.Lossless) where
  rule h := ⟨rfl, .rule h⟩
  broken e := ⟨rfl, .broken e⟩

section Matching

open Matcher

variable {σ : Type} [Traced σ] {I : σ → Prop} {call : Handle → Matcher σ} {p : Parser}

theorem Parser.spells_char (k : CharClass) :
    Spells I anyValue ((Parser.char k).matcher call) :=
  .scan fun _ _ _ h => ⟨True.intro, Scanner.chars_of_class h⟩

theorem Parser.spells_string (s : String) :
    Spells I anyValue ((Parser.string s).matcher call) :=
  .scan fun _ _ _ h => ⟨True.intro, Scanner.chars_of_literal h⟩

theorem Parser.spells_endOfInput : Spells I (· = .unit) (Parser.endOfInput.matcher call) :=
  .scan fun _ _ _ h => Scanner.unit_of_endOfInput h

theorem Parser.spells_atLeastOnce (committed : Bool) (hp : Spells I anyValue (p.matcher call)) :
    Spells I anyValue ((Parser.atLeastOnce committed p).matcher call) :=
  (hp.and (hp.many committed)).map _ fun v _ => ⟨True.intro, v.chars_consPair⟩

theorem Parser.spells_number : Spells I anyValue (Parser.number.matcher call) :=
  (spells_atLeastOnce false (spells_char .digit)).text.named "number"

theorem Parser.spells_lineEnd : Spells I anyValue (Parser.lineEnd.matcher call) :=
  (((spells_string "\r\n").choice false (spells_string "\n")).choice false
    (spells_string "\r")).named "line end"

/-- **A lossless parser spells what it passes**, if its rules do. -/
theorem Parser.Lossless.spells (hnote : ∀ r s, I s → I (Traced.note r s))
    (hcall : ∀ h, Spells I anyValue (call h)) (hp : p.Lossless) :
    Spells I anyValue (p.matcher call) := by
  induction hp with
  | char k => exact spells_char k
  | string s => exact spells_string s
  | stringIgnoringCase s =>
    exact .scan fun _ _ _ h => ⟨True.intro, Scanner.chars_of_literal h⟩
  | number => exact spells_number
  | decimal separator =>
    have hfraction : Spells I anyValue
        ((Parser.and (.string separator) .number).matcher call) :=
      ((spells_string separator).and spells_number).mono fun _ _ => True.intro
    have hnumber : Spells I anyValue (Parser.number.matcher call) := spells_number
    have hwhole := (hnumber.and (hfraction.optional true)).text
    exact (hwhole.choice true hfraction.text).named "decimal"
  | lineEnd => exact spells_lineEnd
  | lineTerminator =>
    have hend : Spells I anyValue ((Parser.yielding .endOfInput (.str "")).matcher call) := by
      refine spells_endOfInput.map _ fun v hv => ⟨True.intro, ?_⟩
      rw [hv]
      rfl
    exact (spells_lineEnd.choice false hend).named "new line"
  | endOfInput => exact spells_endOfInput.mono fun _ _ => True.intro
  | identifier _ _ ihfirst ihtail => exact ihfirst.identifier ihtail
  | text _ ih => exact ih.text
  | not _ ih => exact (ih.absent _ _).mono fun _ _ => True.intro
  | and _ _ ihp ihq => exact (ihp.and ihq).mono fun _ _ => True.intro
  | concat _ _ ihp ihq => exact (ihp.and ihq).map _ fun v _ => ⟨True.intro, v.chars_joinPair⟩
  | choice committed _ _ ihp ihq => exact ihp.choice committed ihq
  | named label _ ih => exact ih.named label
  | filter keep message _ ih => exact ih.filter keep message
  | except _ _ ihp ihe =>
    refine ((ihe.absent _ _).and ihp).map _ ?_
    rintro _ ⟨_, v, rfl, rfl, _⟩
    exact ⟨True.intro, rfl⟩
  | complete _ ih =>
    refine (ih.and spells_endOfInput).map _ ?_
    rintro _ ⟨v, _, rfl, _, rfl⟩
    exact ⟨True.intro, (List.append_nil _).symm⟩
  | positioned _ ih => exact ih.positioned
  | once _ ih => exact ih.map _ fun v _ => ⟨True.intro, v.chars_wrap⟩
  | many committed _ ih => exact ih.many committed
  | atLeastOnce committed _ ih => exact spells_atLeastOnce committed ih
  | repeated least most _ ih => exact ih.repeated hnote least most
  | optional committed _ ih => exact ih.optional committed
  | rule h => exact hcall h
  | broken e => exact .scan fun _ _ _ h => nomatch h

end Matching

/-! ### Rules and runs -/

namespace World

open Matcher

/-- Plain expansion of lossless rules spells what it passes. -/
theorem spells_expand (n : Nat) (h : Handle) :
    Spells (Bodies Parser.Lossless) anyValue (expand n h) := by
  induction n generalizing h with
  | zero => exact fun _ _ _ => .endless
  | succ n ih =>
    intro c w hw
    obtain ⟨hbodies, hresolved⟩ := Kin.resolve kinship_lossless hw h
    rcases hbody : (w.resolve h).1 with _ | body
    · rw [expand_of_unresolved hbody]
      rintro r w' heq
      cases heq
      exact ⟨hw, fun _ _ heq => nomatch heq⟩
    · rw [hbody, Option.rel_some_some] at hbodies
      rw [expand_of_resolved hbody]
      have hspells : Spells (Bodies Parser.Lossless) anyValue (body.matcher (expand n)) :=
        hbodies.2.spells (fun _ _ hw => ⟨hw.book, hw.registry⟩) ih
      exact hspells c _ hresolved

/-- **Lossless grammars reproduce their input.**  A lossless parser, in a world all of whose
    rules are lossless, is run at a cursor over a text, under a guard that knows nothing.
    If it succeeds, then the characters of its value, from left to right, are those of
    the text between the cursor and the remainder. -/
theorem run_lossless {text : List Char} {p : Parser} {c d : Cursor} {v : Value} {w w' : World}
    (hp : p.Lossless) (hw : w.Bodies Parser.Lossless) (hc : c.Over text)
    (hguard : w.guard.entries = []) (hrun : run p c w = some (.success v d, w')) :
    ∃ before behind, Cursor.Cut text c d before v.chars behind := by
  have hsound : w.Sound text := .of_no_entries hguard
  have hreach : c.Reaches d := (matcher_keeps .trivial hc ⟨hsound.sure, True.intro⟩ hrun).2
  obtain ⟨before, between, behind, hcut⟩ := hc.exists_cut hreach
  rw [run, Parser.matcher_eq_hold] at hrun
  have hfaithful := hold_faithful (call_faithful _) hc (p.orderly_dialogue c) hsound hrun
  obtain ⟨n, u, hplain, _⟩ := hfaithful.follows rfl w (.refl w)
  rw [← Parser.matcher_eq_hold] at hplain
  have hspells : Spells (Bodies Parser.Lossless) anyValue (p.matcher (expand n)) :=
    hp.spells (fun _ _ hw => ⟨hw.book, hw.registry⟩) (spells_expand n)
  obtain ⟨_, hpasses⟩ := (hspells c w hw _ u hplain).2 v d rfl
  have hbetween : between = v.chars := hcut.sliceTo_eq.symm.trans hpasses.sliceTo_eq
  rw [hbetween] at hcut
  exact ⟨before, behind, hcut⟩

/-- The first try of a rule is given up behind it, and its outcome is then taken from the
    guard; the next use of the rule has a first alternative that takes nothing and is
    superseded. -/
theorem run_lossless_backtracking :
    let item : Parser := .rule ⟨⟨0, "item"⟩, true⟩
    let line : Parser := .and (.optional false (.and item (.char (.exactly 'x')))) (.and item item)
    let body : Parser := .or (.many false (.char (.exactly 'a'))) (.string "b")
    let w : World := ⟨[.deferred ⟨.build (.leaf body), []⟩], .empty, .empty, [], []⟩
    let v : Value := .pair .absent (.pair (.list [.char 'a']) (.str "b"))
    ∃ d w' before behind, run line (.start ['a', 'b']) w = some (.success v d, w') ∧
      Cursor.Cut ['a', 'b'] (.start ['a', 'b']) d before ['a', 'b'] behind := by
  intro item line body w v
  have hline : line.Lossless :=
    .and (.optional false (.and (.rule _) (.char _))) (.and (.rule _) (.rule _))
  have hbody : body.Lossless := .choice false (.many false (.char _)) (.string "b")
  have hworld : w.Bodies Parser.Lossless :=
    ⟨.cons (.deferred ⟨rfl, .build (.leaf ⟨rfl, hbody⟩)⟩) .nil, rfl, .nil⟩
  have hreply : (run line (.start ['a', 'b']) w).map (·.1) =
      some (.success v ⟨['a', 'b'], ⟨2, 1, 3⟩, []⟩) := rfl
  obtain ⟨⟨r, w'⟩, hrun, rfl⟩ := Option.map_eq_some_iff.mp hreply
  obtain ⟨before, behind, hcut⟩ := run_lossless hline hworld (.start _) rfl hrun
  exact ⟨_, w', before, behind, hrun, hcut⟩

end World

end Descent
