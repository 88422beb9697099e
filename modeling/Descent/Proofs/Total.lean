/-
  Descent/Proofs/Total.lean
  =========================
  **Coming back** — which matchers have an outcome, given that their rules have one.

  A matcher returns if from every cursor behind `start`, in every state with the
  invariant `I`, it comes to an outcome that keeps the invariant and lies at the cursor
  or behind it.  That is a demand on its outcomes, which every steady parser fulfils.
-/
import Descent.Proofs.Outcomes

namespace Descent

namespace Matcher

variable {σ : Type}

def Ends (I : σ → Prop) (c : Cursor) (x : Option (Reply × σ)) : Prop :=
  ∃ r s, x = some (r, s) ∧ I s ∧ c.Reaches r.place

def Returns (I : σ → Prop) (start : Cursor) (m : Matcher σ) : Prop :=
  ∀ c s, start.Reaches c → I s → Ends I c (m c s)

def comingBack (I : σ → Prop) : Demand σ := ⟨I, fun _ => True, True⟩

theorem comingBack_lenient (I : σ → Prop) : (comingBack I).Lenient :=
  ⟨fun _ _ _ => trivial, fun _ _ => trivial, fun _ _ _ _ => trivial⟩

variable {I : σ → Prop} {start : Cursor} {m : Matcher σ}

theorem ends_iff_met {c : Cursor} {x : Option (Reply × σ)} :
    Ends I c x ↔ (comingBack I).Met c x := by
  constructor
  · rintro ⟨r, s, rfl, hs, hr⟩
    exact ⟨hs, fun _ => hr, fun _ _ => trivial⟩
  · intro h
    rcases x with _ | ⟨r, s⟩
    · exact absurd trivial h
    · exact ⟨r, s, rfl, h.1, h.2.1 trivial⟩

theorem returns_iff_fulfils : Returns I start m ↔ Fulfils (comingBack I) start m := by
  constructor
  · exact fun h c s hc hs => ends_iff_met.mp (h c s (hc trivial) hs)
  · exact fun h c s hc hs => ends_iff_met.mpr (h c s (fun _ => hc) hs)

theorem Returns.identifier {p q : Matcher σ} (hp : Returns I start p) (hq : Returns I start q) :
    Returns I start (p.identifier q) :=
  returns_iff_fulfils.mpr
    ((returns_iff_fulfils.mp hp).identifier (returns_iff_fulfils.mp hq))

end Matcher

/-- **A steady parser comes back if its rules do.** -/
theorem Parser.returns_matcher {σ : Type} [Traced σ] {call : Handle → Matcher σ} {I : σ → Prop}
    {start : Cursor} {ok : Parser → Prop} (hnote : ∀ r s, I s → I (Traced.note r s))
    (htally : ∀ label s, I s → I (Traced.tally label s))
    (hcall : ∀ h, Matcher.Returns I start (call h))
    (hok : ∀ q, ok q → Matcher.Moves I start (q.matcher call)) {p : Parser} (hp : p.Steady ok) :
    Matcher.Returns I start (p.matcher call) :=
  Matcher.returns_iff_fulfils.mpr (fulfils_matcher (Matcher.comingBack_lenient I) hnote htally
    (fun h => Matcher.returns_iff_fulfils.mp (hcall h)) hok fun _ => hp)

end Descent
