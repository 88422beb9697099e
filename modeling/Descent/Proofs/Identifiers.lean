/-
  Descent/Proofs/Identifiers.lean
  ===============================
  **Identifiers** — their loop is a greedy repetition that keeps no values.

  An identifier has a loop of its own.  It runs the tail from where the last round stopped,
  and goes on behind a success that consumed something.  Any other success ends it, and so
  does any failure; a defect is passed on.  Free repetition goes the same rounds, from the
  same places and in the same states.  It collects values on the way, and the text of a
  sequence forgets them at the end, so no difference is left (`Matcher.trail_eq`).

  The rounds are compared one by one, for any tail, also for one that moves backwards, and
  for any bound on their number.  The bounds that the loops have matter only where it is
  asked whether they come back.
-/
import Descent.Proofs.Continuation
import Descent.Proofs.Termination

namespace Descent

namespace Matcher

variable {σ : Type}

def succeedWithText (start d : Cursor) (s : σ) : Option (Reply × σ) :=
  succeed (.str (String.ofList (start.sliceTo d))) d s

theorem text_and (p q : Matcher σ) (c : Cursor) (s : σ) :
    (p.and q).text c s =
      p.handle c s (fun _ d s => q.handle d s (fun _ => succeedWithText c) fail) fail :=
  handle_and p q c s

/-- **The loop of an identifier is a repetition**, whatever that has found so far, with the
    text from the start in place of the values. -/
theorem trail_eq (tail : Matcher σ) (start : Cursor) (fuel : Nat) (found : List Value)
    (c : Cursor) (s : σ) :
    trail tail start fuel c s =
      (gather false tail fuel found).handle c s (fun _ => succeedWithText start) fail := by
  induction fuel generalizing found c s with
  | zero => rfl
  | succ fuel ih =>
    rw [handle_gather_succ, trail]
    congr 1
    funext v d s'
    -- The repetition has found one more value, and the hypothesis is for any found so far.
    rw [ih (v :: found)]
    rfl

/-- What an identifier does if the rounds of its tail are bounded in some way. -/
theorem handle_trail (first tail : Matcher σ) (rounds : Cursor → Nat) (c : Cursor) (s : σ) :
    first.handle c s (fun _ d s => trail tail c (rounds d) d s) fail =
      (first.and fun d => gather false tail (rounds d) [] d).text c s := by
  rw [text_and]
  congr 1
  funext _ d s'
  exact trail_eq tail c (rounds d) [] d s'

theorem identifier_eq (first tail : Matcher σ) :
    identifier first tail = (first.and (many false tail)).text := by
  funext c s
  exact handle_trail first tail (fun d => d.rest.length + 1) c s

end Matcher

/-- **An identifier is the text of a sequence**, of its first parser and of its tail as often
    as that goes on consuming.  In every state both have the same outcome, be it a value and
    a remainder, a failure or a defect, and they leave the same state.  That is not due to
    the bounds of their loops: with any other bound on the rounds the loops agree as well,
    and where the two parsers come back and do not move backwards, so do both loops.  Runs of
    the two are the same, then, and leave the same guard. -/
theorem Parser.identifier_composed (first tail : Parser) :
    (∀ {σ : Type} [Traced σ] (call : Handle → Matcher σ),
      (Parser.identifier first tail).matcher call =
          (Parser.text (.and first (.many false tail))).matcher call ∧
      (∀ (rounds : Cursor → Nat) c s,
        (first.matcher call).handle c s
            (fun _ d s => (tail.matcher call).trail c (rounds d) d s) Matcher.fail =
          ((first.matcher call).and
            fun d => (tail.matcher call).gather false (rounds d) [] d).text c s) ∧
      ∀ I start, (first.matcher call).Returns I start → (tail.matcher call).Returns I start →
        ∀ c s, start.Reaches c → I s → ∃ r s',
          (Parser.identifier first tail).matcher call c s = some (r, s') ∧
          (Parser.text (.and first (.many false tail))).matcher call c s = some (r, s')) ∧
    ∀ c w, World.run (.identifier first tail) c w =
      World.run (.text (.and first (.many false tail))) c w := by
  have hmatcher : ∀ {σ : Type} [Traced σ] (call : Handle → Matcher σ),
      (Parser.identifier first tail).matcher call =
        (Parser.text (.and first (.many false tail))).matcher call :=
    fun call => Matcher.identifier_eq (first.matcher call) (tail.matcher call)
  constructor
  · intro σ _ call
    refine ⟨hmatcher call, Matcher.handle_trail _ _, ?_⟩
    intro I start hfirst htail c s hc hs
    obtain ⟨r, s', hrun, _⟩ := hfirst.identifier htail c s hc hs
    refine ⟨r, s', hrun, ?_⟩
    rw [← hmatcher call]
    exact hrun
  · intro c w
    rw [World.run, World.run, hmatcher]

/-- The tail is a rule, for `a` with `b` behind it.  Over `xaba` it succeeds once.  Then it
    fails behind another `a`, which ends the loop where that `a` is unread; the guard keeps
    the failure. -/
theorem Parser.identifier_composed_partly :
    let pair : Parser := .rule ⟨⟨0, "pair"⟩, true⟩
    let start : Cursor := .start ['x', 'a', 'b', 'a']
    let world (g : Guard) : World :=
      ⟨[.defined (.and (.string "a") (.string "b"))], .empty, g, [], []⟩
    let filled : Guard := ⟨none, [
      ((0, 3), .done (.failed ⟨4, 1, 5⟩ "unexpected end of input" ["b"])),
      ((0, 1), .done (.parsed (.pair (.str "a") (.str "b")) ⟨3, 1, 4⟩))]⟩
    let call := World.call ((world .empty).depthLimit start)
    let I := World.Underway start.source (world .empty) start (world .empty).book.capacity
      ((world .empty).depthLimit start)
    let outcome := some (Reply.success (.str "xab") (start.skip 3), world filled)
    ((Parser.take 1).matcher call).Returns I start ∧ (pair.matcher call).Returns I start ∧
      I (world .empty) ∧
      (Parser.identifier (.take 1) pair).matcher call start (world .empty) = outcome ∧
      (Parser.text (.and (.take 1) (.many false pair))).matcher call start (world .empty) =
        outcome := by
  intro pair start world filled call I outcome
  have hover : start.Over start.source := .start _
  have hguard : (world .empty).guard.Recorded start.source := .fresh rfl
  have hsteady : (world .empty).Steady start.source := by
    refine World.steady_of_no_deferred hguard ?_ ?_
    · rintro ⟨_ | index, name⟩ <;> rfl
    · rintro ⟨_ | index, name⟩ body hslot
      · cases hslot
        exact ⟨trivial, trivial⟩
      · cases hslot
  have hcall : ∀ h, (call h).Returns I start := World.returns_call hover hsteady _
  have hfirst : ((Parser.take 1).matcher call).Returns I start :=
    World.returns_of_steady hover hcall trivial
  have hpair : (pair.matcher call).Returns I start := World.returns_of_steady hover hcall trivial
  have hunderway : I (world .empty) := ⟨.here, hguard.sure, .of_run start _⟩
  have hrun : World.run (.identifier (.take 1) pair) start (world .empty) = outcome := rfl
  obtain ⟨r, w', hidentifier, htext⟩ :=
    ((identifier_composed (.take 1) pair).1 call).2.2 I start hfirst hpair start _ (.refl _)
      hunderway
  refine ⟨hfirst, hpair, hunderway, hrun, ?_⟩
  exact (htext.trans hidentifier.symm).trans hrun

end Descent
