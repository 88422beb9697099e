/-
  Descent/Proofs/Dialogue.lean
  ============================
  **Runs as dialogues** — all that a parser does between two uses of a rule is fixed.

  A parser may leave traces, ask rules, and end.  What it does next depends on what
  the rules replied and on nothing else: neither on the state nor on how the rules
  work.  So its runs from a cursor are all held along one tree, its dialogue
  (`Parser.hold_dialogue`).  A statement about every run of every parser is then
  proved by induction on dialogues, which have six forms, and not on parsers with
  their loops.

  Two things are read off the combinators once and for all.  A defect that a rule
  replies ends the dialogue, for `Dialogue.hold` asks through `Matcher.handle`.  And
  a dialogue is orderly (`Parser.orderly_dialogue`): it never goes backwards, as long
  as the rules that it asks do not, and it ends in no defect of its own.

  To see also those parsers at work that leave no trace, every parser can be made to
  announce that it is started (`Parser.watched`).
-/
import Descent.Matcher
import Descent.Proofs.Advance
import Mathlib.Tactic.Choose

namespace Descent

/-! ### Parsers that announce themselves -/

/-- A state that is told of every parser that is started. -/
class Watched (σ : Type) extends Traced σ where
  started : Parser → Cursor → σ → σ

section Watched

variable {σ : Type} [Watched σ]

/-- A matcher that announces the parser whose meaning it is. -/
def Matcher.announced (p : Parser) (m : Matcher σ) : Matcher σ := fun c s =>
  m c (Watched.started p c s)

/-- What a parser does, with an announcement by each parser that is started. -/
def Parser.watched (call : Handle → Matcher σ) : Parser → Matcher σ
  | .scan read => .announced (.scan read) (.inspect fun c => read c.rest)
  | .inspect read => .announced (.inspect read) (.inspect read)
  | .map f p => .announced (.map f p) (.map f (p.watched call))
  | .and p q => .announced (.and p q) (.and (p.watched call) (q.watched call))
  | .bind p held next =>
    .announced (.bind p held next) (.bind (p.watched call) fun v => (next v).watched call)
  | .attempt p held onSuccess onFailure =>
    .announced (.attempt p held onSuccess onFailure)
      (.attempt (p.watched call) (fun v d => (onSuccess v d).watched call)
        fun f => (onFailure f).watched call)
  | .filter p keep message =>
    .announced (.filter p keep message) (.filter (p.watched call) keep message)
  | .text p => .announced (.text p) (.text (p.watched call))
  | .positioned p => .announced (.positioned p) (.positioned (p.watched call))
  | .named p label => .announced (.named p label) (.named (p.watched call) label)
  | .choice committed p q =>
    .announced (.choice committed p q) (.choice committed (p.watched call) (q.watched call))
  | .many committed p => .announced (.many committed p) (.many committed (p.watched call))
  | .repeated p least most =>
    .announced (.repeated p least most) (.repeated (p.watched call) least most)
  | .optional committed p =>
    .announced (.optional committed p) (.optional committed (p.watched call))
  | .preview p => .announced (.preview p) (.preview (p.watched call))
  | .absent p message labels =>
    .announced (.absent p message labels) (.absent (p.watched call) message labels)
  | .identifier first tail =>
    .announced (.identifier first tail) (.identifier (first.watched call) (tail.watched call))
  | .chain committed grouping combine operator operand =>
    .announced (.chain committed grouping combine operator operand)
      (.chain committed grouping combine (operator.watched call) (operand.watched call))
  | .counted label p => .announced (.counted label p) (.counted label (p.watched call))
  | .rule h => .announced (.rule h) (call h)

end Watched

abbrev Watched.deaf (σ : Type) [Traced σ] : Watched σ := ⟨fun _ _ s => s⟩

/-- Where nobody listens, announcing changes nothing. -/
theorem Parser.watched_deaf {σ : Type} [Traced σ] (call : Handle → Matcher σ) (p : Parser) :
    @Parser.watched σ (.deaf σ) call p = p.matcher call := by
  induction p with
  | scan | inspect | rule => rfl
  | bind p held next ihp ihnext =>
    simp only [watched, matcher, ihp, ihnext]
    rfl
  | attempt p held onSuccess onFailure ihp ihsuccess ihfailure =>
    simp only [watched, matcher, ihp, ihsuccess, ihfailure]
    rfl
  | and p q ihp ihq | choice _ p q ihp ihq | identifier p q ihp ihq | chain _ _ _ p q ihp ihq =>
    simp only [watched, matcher, ihp, ihq]
    rfl
  | map _ p ih | filter p _ _ ih | text p ih | positioned p ih | named p _ ih | many _ p ih
  | repeated p _ _ ih | optional _ p ih | preview p ih | absent p _ _ ih | counted _ p ih =>
    simp only [watched, matcher, ih]
    rfl

/-! ### Dialogues -/

def Reply.place : Reply → Cursor
  | .success _ d => d
  | .failure f => f.remainder
  | .defect e => e.place

def Reply.defect? : Reply → Option Defect
  | .success _ _ | .failure _ => none
  | .defect e => some e

theorem Reply.eq_defect {r : Reply} {e : Defect} (h : r.defect? = some e) : r = .defect e := by
  cases r with
  | success | failure => cases h
  | defect e' =>
    cases h
    rfl

/-- What a parser does from a cursor on, for every reply that a rule may give. -/
inductive Dialogue where
  | finish (r : Reply)
  /-- The run goes on for ever, without asking a rule again. -/
  | endless
  | started (p : Parser) (c : Cursor) (next : Dialogue)
  /-- A repetition falls short at a cursor, which is recorded. -/
  | fellShort (stop : Cursor) (next : Dialogue)
  | tally (label : String) (next : Dialogue)
  | ask (h : Handle) (c : Cursor) (next : Reply → Dialogue)

namespace Dialogue

def hold {σ : Type} [Watched σ] (call : Handle → Matcher σ) : Dialogue → σ → Option (Reply × σ)
  | .finish r, s => some (r, s)
  | .endless, _ => none
  | .started p c next, s => next.hold call (Watched.started p c s)
  | .fellShort stop next, s => next.hold call (Traced.note (.fellShort stop) s)
  | .tally label next, s => next.hold call (Traced.tally label s)
  | .ask h c next, s =>
    (call h).handle c s (fun v d s => (next (.success v d)).hold call s)
      (fun f s => (next (.failure f)).hold call s)

section Ask

variable {σ : Type} [Watched σ] {call call' : Handle → Matcher σ} {k : Handle} {d : Cursor}
  {next : Reply → Dialogue} {s s' : σ} {r : Reply}

theorem hold_ask_of_none (h : call k d s = none) : (ask k d next).hold call s = none := by
  rw [hold, Matcher.handle_of_none h]

theorem hold_ask_of_defect {e : Defect} (h : call k d s = some (.defect e, s')) :
    (ask k d next).hold call s = some (.defect e, s') := by
  rw [hold, Matcher.handle_of_defect h]

theorem hold_ask_of_reply (h : call k d s = some (r, s')) (hr : r.defect? = none) :
    (ask k d next).hold call s = (next r).hold call s' := by
  cases r with
  | success v e => rw [hold, Matcher.handle_of_success h]
  | failure f => rw [hold, Matcher.handle_of_failure h]
  | defect e => cases hr

theorem hold_ask_cases (h : (ask k d next).hold call s = some (r, s')) :
    (∃ e, r = .defect e ∧ call k d s = some (.defect e, s')) ∨
    ∃ r₁ s₁, call k d s = some (r₁, s₁) ∧ r₁.defect? = none ∧
      (next r₁).hold call s₁ = some (r, s') := by
  rcases hcall : call k d s with _ | ⟨r₁, s₁⟩
  · rw [hold_ask_of_none hcall] at h
    cases h
  · rcases hr₁ : r₁.defect? with _ | e
    · rw [hold_ask_of_reply hcall hr₁] at h
      exact .inr ⟨r₁, s₁, rfl, hr₁, h⟩
    · obtain rfl := Reply.eq_defect hr₁
      rw [hold_ask_of_defect hcall] at h
      cases h
      exact .inl ⟨e, rfl, rfl⟩

theorem hold_ask_none_cases (h : (ask k d next).hold call s = none) :
    call k d s = none ∨
    ∃ r₁ s₁, call k d s = some (r₁, s₁) ∧ r₁.defect? = none ∧
      (next r₁).hold call s₁ = none := by
  rcases hcall : call k d s with _ | ⟨r₁, s₁⟩
  · exact .inl rfl
  · rcases hr₁ : r₁.defect? with _ | e
    · rw [hold_ask_of_reply hcall hr₁] at h
      exact .inr ⟨r₁, s₁, rfl, hr₁, h⟩
    · obtain rfl := Reply.eq_defect hr₁
      rw [hold_ask_of_defect hcall] at h
      cases h

/-- **Rules that reply more often keep every end** of a dialogue. -/
theorem hold_mono (hcall : ∀ k d s x, call k d s = some x → call' k d s = some x)
    {t : Dialogue} (h : t.hold call s = some (r, s')) : t.hold call' s = some (r, s') := by
  induction t generalizing s with
  | finish r' => exact h
  | endless => cases h
  | started p d next ih | fellShort p next ih | tally p next ih => exact ih h
  | ask k d next ih =>
    rcases hold_ask_cases h with ⟨e, rfl, hask⟩ | ⟨r₁, s₁, hask, hr₁, hnext⟩
    · exact hold_ask_of_defect (hcall k d s _ hask)
    · rw [hold_ask_of_reply (hcall k d s _ hask) hr₁]
      exact ih r₁ hnext

end Ask

/-- The dialogue makes up no defect: the only defects are those that rules reply. -/
def Clean : Dialogue → Prop
  | .finish r => r.defect? = none
  | .endless => True
  | .started _ _ next | .fellShort _ next | .tally _ next => next.Clean
  | .ask _ _ next => ∀ r, r.defect? = none → (next r).Clean

/-- The dialogue asks and ends at `c` or behind it, if no rule replies with a place
    before the one it was asked at. -/
def Forward (c : Cursor) : Dialogue → Prop
  | .finish r => c.Reaches r.place
  | .endless => True
  | .started _ _ next | .fellShort _ next | .tally _ next => next.Forward c
  | .ask _ d next => c.Reaches d ∧ ∀ r, d.Reaches r.place → (next r).Forward c

def Orderly (c : Cursor) (t : Dialogue) : Prop := t.Clean ∧ t.Forward c

namespace Orderly

variable {c d : Cursor} {k : Handle} {next : Reply → Dialogue} {r : Reply}

theorem reaches (ht : (ask k d next).Orderly c) : c.Reaches d := ht.2.1

theorem after (ht : (ask k d next).Orderly c) (hr : r.defect? = none) (hplace : d.Reaches r.place) :
    (next r).Orderly c := ⟨ht.1 r hr, ht.2.2 r hplace⟩

end Orderly

def handle (onSuccess : Value → Cursor → Dialogue) (onFailure : Failure → Dialogue) :
    Dialogue → Dialogue
  | .finish (.success v d) => onSuccess v d
  | .finish (.failure f) => onFailure f
  | .finish (.defect e) => .finish (.defect e)
  | .endless => .endless
  | .started p c next => .started p c (next.handle onSuccess onFailure)
  | .fellShort stop next => .fellShort stop (next.handle onSuccess onFailure)
  | .tally label next => .tally label (next.handle onSuccess onFailure)
  | .ask h c next => .ask h c fun r => (next r).handle onSuccess onFailure

/-- A dialogue that goes on behind another one is held as a matcher goes on behind
    another one. -/
theorem hold_handle {σ : Type} [Watched σ] (call : Handle → Matcher σ)
    {onSuccess : Value → Cursor → Dialogue} {onFailure : Failure → Dialogue} (t : Dialogue)
    (c : Cursor) (s : σ) :
    (t.handle onSuccess onFailure).hold call s =
      Matcher.handle (fun _ s => t.hold call s) c s (fun v d s => (onSuccess v d).hold call s)
        (fun f s => (onFailure f).hold call s) := by
  induction t generalizing s with
  | finish r => cases r <;> rfl
  | endless => rfl
  | started p d next ih | fellShort p next ih | tally p next ih => exact ih _
  | ask k d next ih =>
    rcases hcall : call k d s with _ | ⟨r, s'⟩
    · simp only [handle, hold_ask_of_none hcall, Matcher.handle]
    · rcases hr : r.defect? with _ | e
      · simp only [handle, hold_ask_of_reply hcall hr, Matcher.handle]
        exact ih r s'
      · obtain rfl := Reply.eq_defect hr
        simp only [handle, hold_ask_of_defect hcall, Matcher.handle]

theorem Clean.handle {onSuccess : Value → Cursor → Dialogue} {onFailure : Failure → Dialogue}
    {t : Dialogue} (ht : t.Clean) (hsuccess : ∀ v d, (onSuccess v d).Clean)
    (hfailure : ∀ f, (onFailure f).Clean) : (t.handle onSuccess onFailure).Clean := by
  induction t with
  | finish r =>
    cases r with
    | success v d => exact hsuccess v d
    | failure f => exact hfailure f
    | defect e => exact ht
  | endless => trivial
  | started p d next ih | fellShort p next ih | tally p next ih => exact ih ht
  | ask k d next ih => exact fun r hr => ih r (ht r hr)

theorem Forward.mono {c e : Cursor} (hce : c.Reaches e) {t : Dialogue} (ht : t.Forward e) :
    t.Forward c := by
  induction t with
  | finish r => exact hce.trans ht
  | endless => trivial
  | started p d next ih | fellShort p next ih | tally p next ih => exact ih ht
  | ask k d next ih => exact ⟨hce.trans ht.1, fun r hr => ih r (ht.2 r hr)⟩

theorem Forward.handle {c e : Cursor} (hce : c.Reaches e) {onSuccess : Value → Cursor → Dialogue}
    {onFailure : Failure → Dialogue} {t : Dialogue} (ht : t.Forward e)
    (hsuccess : ∀ v d, e.Reaches d → (onSuccess v d).Forward c)
    (hfailure : ∀ f : Failure, e.Reaches f.remainder → (onFailure f).Forward c) :
    (t.handle onSuccess onFailure).Forward c := by
  induction t with
  | finish r =>
    cases r with
    | success v d => exact hsuccess v d ht
    | failure f => exact hfailure f ht
    | defect d => exact hce.trans ht
  | endless => trivial
  | started p d next ih | fellShort p next ih | tally p next ih => exact ih ht
  | ask k d next ih => exact ⟨hce.trans ht.1, fun r hr => ih r (ht.2 r hr)⟩

/-- **What the rules keep, a dialogue keeps.**  If no use of a rule breaks the
    invariant `I` or replies with a place before its own, then no dialogue does. -/
theorem hold_keeps {σ : Type} [Watched σ] {call : Handle → Matcher σ} {text : List Char}
    {I : σ → Prop} (hstarted : ∀ p c s, I s → I (Watched.started p c s))
    (hnote : ∀ r s, I s → I (Traced.note r s)) (htally : ∀ label s, I s → I (Traced.tally label s))
    (hcall : ∀ h d s r s', d.Over text → I s → call h d s = some (r, s') →
      I s' ∧ d.Reaches r.place)
    {t : Dialogue} {c : Cursor} (hc : c.Over text) (ht : t.Orderly c) {s s' : σ} {r : Reply}
    (hs : I s) (h : t.hold call s = some (r, s')) : I s' ∧ c.Reaches r.place := by
  induction t generalizing s with
  | finish r' =>
    cases h
    exact ⟨hs, ht.2⟩
  | endless => cases h
  | started p d next ih => exact ih ht (hstarted p d s hs) h
  | fellShort stop next ih => exact ih ht (hnote _ s hs) h
  | tally label next ih => exact ih ht (htally label s hs) h
  | ask k d next ih =>
    rcases hold_ask_cases h with ⟨e, rfl, hask⟩ | ⟨r₁, s₁, hask, hdefect, hnext⟩
    · obtain ⟨hs', he⟩ := hcall k d s _ s' (hc.reaches ht.reaches) hs hask
      exact ⟨hs', ht.reaches.trans he⟩
    · obtain ⟨hs₁, hr₁⟩ := hcall k d s r₁ s₁ (hc.reaches ht.reaches) hs hask
      exact ih r₁ (ht.after hdefect hr₁) hs₁ hnext

end Dialogue

/-! ### What is held along a dialogue -/

abbrev Talk := ∀ (σ : Type) [Watched σ], (Handle → Matcher σ) → σ → Option (Reply × σ)

/-- All runs of `talk` are held along one dialogue, which makes up no defect, and goes
    forward from `c` provided that `P` holds. -/
def Talk.Along (c : Cursor) (P : Prop) (talk : Talk) : Prop :=
  ∃ t : Dialogue, (∀ (σ : Type) [Watched σ] (call : Handle → Matcher σ) (s : σ),
    talk σ call s = t.hold call s) ∧ t.Clean ∧ (P → t.Forward c)

namespace Talk.Along

variable {c e : Cursor} {P : Prop}

theorem succeed {v : Value} {d : Cursor} (h : P → c.Reaches d) :
    Along c P fun _ _ _ s => Matcher.succeed v d s :=
  ⟨.finish (.success v d), fun _ _ _ _ => rfl, rfl, h⟩

theorem fail {f : Failure} (h : P → c.Reaches f.remainder) :
    Along c P fun _ _ _ s => Matcher.fail f s :=
  ⟨.finish (.failure f), fun _ _ _ _ => rfl, rfl, h⟩

theorem endless : Along c P fun _ _ _ _ => none :=
  ⟨.endless, fun _ _ _ _ => rfl, trivial, fun _ => trivial⟩

theorem ask (h : Handle) : Along c P fun _ _ call s => call h c s := by
  refine ⟨.ask h c .finish, fun σ _ call s => ?_, fun r hr => hr,
    fun _ => ⟨.refl c, fun r hr => hr⟩⟩
  show call h c s = Dialogue.hold call (.ask h c .finish) s
  rcases hcall : call h c s with _ | ⟨r, s'⟩
  · exact (Dialogue.hold_ask_of_none hcall).symm
  · rcases hr : r.defect? with _ | e
    · rw [Dialogue.hold_ask_of_reply hcall hr, Dialogue.hold]
    · obtain rfl := Reply.eq_defect hr
      exact (Dialogue.hold_ask_of_defect hcall).symm

theorem started (p : Parser) {talk : Talk} (h : Along c P talk) :
    Along c P fun σ _ call s => talk σ call (Watched.started p c s) := by
  obtain ⟨t, ht, hclean, hforward⟩ := h
  exact ⟨.started p c t, fun σ _ call s => ht σ call _, hclean, hforward⟩

theorem fellShort (stop : Cursor) {talk : Talk} (h : Along c P talk) :
    Along c P fun σ _ call s => talk σ call (Traced.note (.fellShort stop) s) := by
  obtain ⟨t, ht, hclean, hforward⟩ := h
  exact ⟨.fellShort stop t, fun σ _ call s => ht σ call _, hclean, hforward⟩

theorem tally (label : String) {talk : Talk} (h : Along c P talk) :
    Along c P fun σ _ call s => talk σ call (Traced.tally label s) := by
  obtain ⟨t, ht, hclean, hforward⟩ := h
  exact ⟨.tally label t, fun σ _ call s => ht σ call _, hclean, hforward⟩

theorem cond {b : Prop} [Decidable b] {yes no : Talk} (hyes : b → Along c P yes)
    (hno : ¬ b → Along c P no) :
    Along c P fun σ _ call s => if b then yes σ call s else no σ call s := by
  by_cases hb : b
  · simpa only [if_pos hb] using hyes hb
  · simpa only [if_neg hb] using hno hb

theorem handle {m : ∀ (σ : Type) [Watched σ], (Handle → Matcher σ) → Matcher σ}
    {onSuccess : ∀ (σ : Type) [Watched σ], (Handle → Matcher σ) → Value → Cursor → σ →
      Option (Reply × σ)}
    {onFailure : ∀ (σ : Type) [Watched σ], (Handle → Matcher σ) → Failure → σ →
      Option (Reply × σ)}
    (hm : Along e True fun σ _ call s => m σ call e s) (hce : P → c.Reaches e)
    (hsuccess : ∀ v d, Along c (P ∧ e.Reaches d) fun σ _ call s => onSuccess σ call v d s)
    (hfailure : ∀ f : Failure,
      Along c (P ∧ e.Reaches f.remainder) fun σ _ call s => onFailure σ call f s) :
    Along c P fun σ _ call s => (m σ call).handle e s (onSuccess σ call) (onFailure σ call) := by
  obtain ⟨t, ht, hclean, hforward⟩ := hm
  choose after hafter hafterClean hafterForward using hsuccess
  choose instead hinstead hinsteadClean hinsteadForward using hfailure
  refine ⟨t.handle after instead, fun σ _ call s => ?_, ?_, fun hP => ?_⟩
  · rw [Dialogue.hold_handle call t e s]
    simp only [Matcher.handle, ht, hafter, hinstead]
  · exact hclean.handle hafterClean hinsteadClean
  · exact (hforward trivial).handle (hce hP) (fun v d hd => hafterForward v d ⟨hP, hd⟩)
      (fun f hf => hinsteadForward f ⟨hP, hf⟩)

end Talk.Along

/-! ### One combinator at a time -/

theorem Failure.reaches_furthest {c : Cursor} {f g : Failure} (hf : c.Reaches f.remainder)
    (hg : c.Reaches g.remainder) : c.Reaches (f.furthest g).remainder := by
  unfold Failure.furthest
  split
  · exact hg
  · exact hf
  · exact hf

abbrev Speaker := ∀ (σ : Type) [Watched σ], (Handle → Matcher σ) → Matcher σ

/-- From each cursor on, all runs of the matcher are held along one dialogue, which
    makes up no defect and goes forward. -/
def Speaker.Held (m : Speaker) : Prop :=
  ∀ c, Talk.Along c True fun σ _ call s => m σ call c s

namespace Speaker.Held

variable {p q : Speaker}

theorem inspect (read : Cursor → Verdict) : Held fun _ _ _ => .inspect read := by
  intro c
  refine ⟨.finish (Matcher.conclude c (read c)), fun _ _ _ _ => rfl, ?_, fun _ => ?_⟩
  · rcases read c with _ | _
    · rfl
    · rfl
  · rcases read c with ⟨n, v⟩ | ⟨n, message, labels⟩
    · exact .skip n c
    · exact .skip n c

theorem ask (h : Handle) : Held fun _ _ call => call h := fun _ => .ask h

theorem announced (parser : Parser) (hp : Held p) :
    Held fun σ _ call => .announced parser (p σ call) := fun c => (hp c).started parser

theorem counted (label : String) (hp : Held p) :
    Held fun σ _ call => .counted label (p σ call) := fun c => (hp c).tally label

/-- A matcher whose value is changed, whatever the change looks at. -/
theorem yielding (value : Cursor → Value → Cursor → Value) (hp : Held p) :
    Held fun σ _ call c s =>
      (p σ call).handle c s (fun v d s => Matcher.succeed (value c v d) d s) Matcher.fail := by
  intro c
  exact .handle (hp c) (fun _ => .refl c) (fun v d => .succeed fun h => h.2)
    (fun f => .fail fun h => h.2)

theorem filter (keep : Value → Bool) (message : String) (hp : Held p) :
    Held fun σ _ call => .filter (p σ call) keep message := by
  intro c
  refine .handle (hp c) (fun _ => .refl c) (fun v d => ?_) (fun f => .fail fun h => h.2)
  exact .cond (fun _ => .succeed fun h => h.2) (fun _ => .fail fun _ => .refl c)

theorem named (label : String) (hp : Held p) : Held fun σ _ call => .named (p σ call) label := by
  intro c
  refine .handle (hp c) (fun _ => .refl c) (fun v d => .succeed fun h => h.2) (fun f => .fail ?_)
  intro h
  split
  · exact h.2
  · exact h.2

theorem optional (committed : Bool) (hp : Held p) :
    Held fun σ _ call => .optional committed (p σ call) := by
  intro c
  refine .handle (hp c) (fun _ => .refl c) (fun v d => .succeed fun h => h.2) (fun f => ?_)
  exact .cond (fun _ => .fail fun h => h.2) (fun _ => .succeed fun _ => .refl c)

theorem preview (hp : Held p) : Held fun σ _ call => .preview (p σ call) := by
  intro c
  exact .handle (hp c) (fun _ => .refl c) (fun v d => .succeed fun _ => .refl c)
    (fun f => .succeed fun _ => .refl c)

theorem absent (message : String) (labels : List String) (hp : Held p) :
    Held fun σ _ call => .absent (p σ call) message labels := by
  intro c
  exact .handle (hp c) (fun _ => .refl c) (fun v d => .fail fun _ => .refl c)
    (fun f => .succeed fun _ => .refl c)

theorem bind {next : Value → Speaker} (hp : Held p) (hnext : ∀ v, Held (next v)) :
    Held fun σ _ call => .bind (p σ call) fun v => next v σ call := by
  intro c
  refine .handle (hp c) (fun _ => .refl c) (fun v d => ?_) (fun f => .fail fun h => h.2)
  obtain ⟨t, ht, hclean, hforward⟩ := hnext v d
  exact ⟨t, ht, hclean, fun h => (hforward trivial).mono h.2⟩

theorem attempt {onSuccess : Value → Cursor → Speaker} {onFailure : Failure → Speaker}
    (hp : Held p) (hsuccess : ∀ v d, Held (onSuccess v d)) (hfailure : ∀ f, Held (onFailure f)) :
    Held fun σ _ call =>
      .attempt (p σ call) (fun v d => onSuccess v d σ call) fun f => onFailure f σ call := by
  intro c
  refine .handle (hp c) (fun _ => .refl c) (fun v d => ?_) (fun f => ?_)
  · obtain ⟨t, ht, hclean, hforward⟩ := hsuccess v d c
    exact ⟨t, ht, hclean, fun _ => hforward trivial⟩
  · obtain ⟨t, ht, hclean, hforward⟩ := hfailure f c
    exact ⟨t, ht, hclean, fun _ => hforward trivial⟩

theorem choice (committed : Bool) (hp : Held p) (hq : Held q) :
    Held fun σ _ call => .choice committed (p σ call) (q σ call) := by
  intro c
  refine .handle (hp c) (fun _ => .refl c) (fun v d => ?_) (fun f => ?_)
  · refine .cond (fun _ => ?_) (fun _ => .succeed fun h => h.2)
    exact .handle (hq c) (fun _ => .refl c) (fun w e => .succeed fun h => h.2)
      (fun g => .succeed fun h => h.1.2)
  · refine .cond (fun _ => .fail fun h => h.2) (fun _ => ?_)
    exact .handle (hq c) (fun _ => .refl c) (fun w e => .succeed fun h => h.2)
      (fun g => .fail fun h => Failure.reaches_furthest h.1.2 h.2)

theorem sequence {c e : Cursor} {P : Prop}
    {onSuccess : ∀ (σ : Type) [Watched σ], (Handle → Matcher σ) → Value → Value → Cursor → σ →
      Option (Reply × σ)}
    {onFailure : ∀ (σ : Type) [Watched σ], (Handle → Matcher σ) → Failure → σ →
      Option (Reply × σ)}
    (hp : Held p) (hq : Held q) (hce : P → c.Reaches e)
    (hsuccess : ∀ v w d, Talk.Along c (P ∧ e.Reaches d) fun σ _ call s =>
      onSuccess σ call v w d s)
    (hfailure : ∀ f : Failure, Talk.Along c (P ∧ e.Reaches f.remainder) fun σ _ call s =>
      onFailure σ call f s) :
    Talk.Along c P fun σ _ call s =>
      Matcher.sequence (p σ call) (q σ call) e s (onSuccess σ call) (onFailure σ call) := by
  refine .handle (hp e) hce (fun v d => ?_) hfailure
  refine .handle (hq d) (fun h => (hce h.1).trans h.2) (fun w d' => ?_) (fun f => ?_)
  · obtain ⟨t, ht, hclean, hforward⟩ := hsuccess v w d'
    exact ⟨t, ht, hclean, fun h => hforward ⟨h.1.1, h.1.2.trans h.2⟩⟩
  · obtain ⟨t, ht, hclean, hforward⟩ := hfailure f
    exact ⟨t, ht, hclean, fun h => hforward ⟨h.1.1, h.1.2.trans h.2⟩⟩

theorem and (hp : Held p) (hq : Held q) : Held fun σ _ call => .and (p σ call) (q σ call) := by
  intro c
  exact sequence hp hq (fun _ => .refl c) (fun v w d => .succeed fun h => h.2)
    (fun f => .fail fun h => h.2)

/-! Loops are held by induction on their fuel.  A loop that has used it up is endless, and
whatever it did before goes forward all the same. -/

theorem gather {c e : Cursor} {P : Prop} (committed : Bool) (hp : Held p) (fuel : Nat)
    (found : List Value) (hce : P → c.Reaches e) :
    Talk.Along c P fun σ _ call s => Matcher.gather committed (p σ call) fuel found e s := by
  induction fuel generalizing P e found with
  | zero => exact .endless
  | succ fuel ih =>
    refine .handle (hp e) hce (fun v d => ?_) (fun f => ?_)
    · exact .cond (fun _ => .succeed fun h => hce h.1)
        (fun _ => ih (v :: found) fun h => (hce h.1).trans h.2)
    · exact .cond (fun _ => .fail fun h => (hce h.1).trans h.2) (fun _ => .succeed fun h => hce h.1)

theorem many (committed : Bool) (hp : Held p) :
    Held fun σ _ call => .many committed (p σ call) :=
  fun c => hp.gather committed _ [] fun _ => .refl c

theorem trail {c e : Cursor} {P : Prop} (start : Cursor) (hq : Held q) (fuel : Nat)
    (hce : P → c.Reaches e) :
    Talk.Along c P fun σ _ call s => Matcher.trail (q σ call) start fuel e s := by
  induction fuel generalizing P e with
  | zero => exact .endless
  | succ fuel ih =>
    refine .handle (hq e) hce (fun v d => ?_) (fun f => .succeed fun h => hce h.1)
    exact .cond (fun _ => .succeed fun h => hce h.1) (fun _ => ih fun h => (hce h.1).trans h.2)

theorem identifier (hp : Held p) (hq : Held q) :
    Held fun σ _ call => .identifier (p σ call) (q σ call) := by
  intro c
  exact .handle (hp c) (fun _ => .refl c) (fun v d => hq.trail c _ fun h => h.2)
    (fun f => .fail fun h => h.2)

theorem settle {c e : Cursor} {P : Prop} (least most : Option Nat) (found : List Value)
    (stop : Option Failure) (hce : P → c.Reaches e) :
    Talk.Along c P fun _ _ _ s => Matcher.settle least most c found e stop s :=
  .cond (fun _ => .fellShort _ (.fail fun _ => .refl c)) (fun _ => .succeed hce)

theorem times {c e : Cursor} {P : Prop} (bounded : Bool) (least most : Option Nat) (hp : Held p)
    (fuel : Nat) (found : List Value) (hce : P → c.Reaches e) :
    Talk.Along c P fun σ _ call s =>
      Matcher.times bounded (p σ call) (Matcher.settle least most c) fuel found e s := by
  induction fuel generalizing P e found with
  | zero => exact .cond (fun _ => settle least most found none hce) (fun _ => .endless)
  | succ fuel ih =>
    exact .handle (hp e) hce (fun v d => ih (v :: found) fun h => (hce h.1).trans h.2)
      (fun f => settle least most found (some f) fun h => hce h.1)

theorem repeated (least most : Option Nat) (hp : Held p) :
    Held fun σ _ call => .repeated (p σ call) least most :=
  fun c => hp.times _ least most _ [] fun _ => .refl c

theorem chainLeft {c e : Cursor} {P : Prop} (committed : Bool)
    (combine : Value → Value → Value → Value) (hp : Held p) (hq : Held q) (fuel : Nat)
    (value : Value) (hce : P → c.Reaches e) :
    Talk.Along c P fun σ _ call s =>
      Matcher.chainLeft committed combine (p σ call) (q σ call) fuel value e s := by
  induction fuel generalizing P e value with
  | zero => exact .endless
  | succ fuel ih =>
    refine sequence hp hq hce (fun tag right d => ?_) (fun f => ?_)
    · exact .cond (fun _ => .succeed fun h => hce h.1)
        (fun _ => ih _ fun h => (hce h.1).trans h.2)
    · exact .cond (fun _ => .fail fun h => (hce h.1).trans h.2) (fun _ => .succeed fun h => hce h.1)

theorem chainRight {c e : Cursor} {P : Prop} (committed : Bool)
    (combine : Value → Value → Value → Value) (hp : Held p) (hq : Held q) (fuel : Nat)
    (waiting : List (Value × Value)) (value : Value) (hce : P → c.Reaches e) :
    Talk.Along c P fun σ _ call s =>
      Matcher.chainRight committed combine (p σ call) (q σ call) fuel waiting value e s := by
  induction fuel generalizing P e waiting value with
  | zero => exact .endless
  | succ fuel ih =>
    refine sequence hp hq hce (fun tag right d => ?_) (fun f => ?_)
    · exact .cond (fun _ => .succeed fun h => hce h.1)
        (fun _ => ih _ _ fun h => (hce h.1).trans h.2)
    · exact .cond (fun _ => .fail fun h => (hce h.1).trans h.2) (fun _ => .succeed fun h => hce h.1)

theorem chain (committed : Bool) (grouping : Grouping) (combine : Value → Value → Value → Value)
    (hp : Held p) (hq : Held q) :
    Held fun σ _ call => .chain committed grouping combine (p σ call) (q σ call) := by
  intro c
  refine .handle (hq c) (fun _ => .refl c) (fun v d => ?_) (fun f => .fail fun h => h.2)
  cases grouping with
  | left => exact hp.chainLeft committed combine hq _ v fun h => h.2
  | right => exact hp.chainRight committed combine hq _ [] v fun h => h.2

end Speaker.Held

/-! ### Every parser -/

namespace Parser

theorem held_watched (p : Parser) : Speaker.Held fun _ _ call => p.watched call := by
  induction p with
  | scan read => exact (Speaker.Held.inspect fun c => read c.rest).announced _
  | inspect read => exact (Speaker.Held.inspect read).announced _
  | map f p ih => exact (ih.yielding fun _ v _ => f v).announced _
  | and p q ihp ihq => exact (ihp.and ihq).announced _
  | bind p held next ihp ihnext => exact (ihp.bind ihnext).announced _
  | attempt p held onSuccess onFailure ihp ihsuccess ihfailure =>
    exact (ihp.attempt ihsuccess ihfailure).announced _
  | filter p keep message ih => exact (ih.filter keep message).announced _
  | text p ih => exact (ih.yielding fun c _ d => .str (String.ofList (c.sliceTo d))).announced _
  | positioned p ih => exact (ih.yielding fun c v d => .span v ⟨c.position, d.position⟩).announced _
  | named p label ih => exact (ih.named label).announced _
  | choice committed p q ihp ihq => exact (ihp.choice committed ihq).announced _
  | many committed p ih => exact (ih.many committed).announced _
  | repeated p least most ih => exact (ih.repeated least most).announced _
  | optional committed p ih => exact (ih.optional committed).announced _
  | preview p ih => exact ih.preview.announced _
  | absent p message labels ih => exact (ih.absent message labels).announced _
  | identifier first tail ihfirst ihtail => exact (ihfirst.identifier ihtail).announced _
  | chain committed grouping combine operator operand ihoperator ihoperand =>
    exact (ihoperator.chain committed grouping combine ihoperand).announced _
  | counted label p ih => exact (ih.counted label).announced _
  | rule h => exact (Speaker.Held.ask h).announced _

/-- The dialogue of a parser from a cursor on. -/
noncomputable def dialogue (p : Parser) (c : Cursor) : Dialogue := (p.held_watched c).choose

/-- **Every run of a parser is held along its dialogue**, in whatever state and with
    whatever rules. -/
theorem hold_dialogue {σ : Type} [Watched σ] (call : Handle → Matcher σ) (p : Parser) (c : Cursor)
    (s : σ) : (p.dialogue c).hold call s = p.watched call c s :=
  ((p.held_watched c).choose_spec.1 σ call s).symm

/-- **Dialogues are orderly.** -/
theorem orderly_dialogue (p : Parser) (c : Cursor) : (p.dialogue c).Orderly c :=
  ⟨(p.held_watched c).choose_spec.2.1, (p.held_watched c).choose_spec.2.2 trivial⟩

theorem matcher_eq_hold {σ : Type} [Traced σ] (call : Handle → Matcher σ) (p : Parser)
    (c : Cursor) (s : σ) :
    p.matcher call c s = @Dialogue.hold σ (.deaf σ) call (p.dialogue c) s := by
  rw [@hold_dialogue σ (.deaf σ), watched_deaf]

/-- **What the rules keep, a parser keeps.** -/
theorem matcher_keeps {σ : Type} [Traced σ] {call : Handle → Matcher σ} {text : List Char}
    {I : σ → Prop} (hnote : ∀ r s, I s → I (Traced.note r s))
    (htally : ∀ label s, I s → I (Traced.tally label s))
    (hcall : ∀ h d s r s', d.Over text → I s → call h d s = some (r, s') →
      I s' ∧ d.Reaches r.place)
    {p : Parser} {c : Cursor} (hc : c.Over text) {s s' : σ} {r : Reply} (hs : I s)
    (h : p.matcher call c s = some (r, s')) : I s' ∧ c.Reaches r.place := by
  rw [matcher_eq_hold] at h
  exact @Dialogue.hold_keeps σ (.deaf σ) call text I (fun _ _ _ hs => hs) hnote htally hcall
    (p.dialogue c) c hc (p.orderly_dialogue c) s s' r hs h

end Parser

end Descent
