/-
  Descent/Guard.lean
  ==================
  **The guard** — which rules were entered at which places, and how that ended.

  The guard has at most one entry for each rule and offset.  While the rule is being
  expanded there the entry says so, and a second entry at the same offset is left
  recursion.  Once the expansion has ended with a success or a failure the entry
  holds the outcome, with places in place of cursors, and the rule is not run there
  again.

  Entries are about one text.  Binding a guard to a different text drops them.
-/
import Descent.Reply

namespace Descent

/-- How the expansion of a rule ended, with places in place of cursors. -/
inductive Memo where
  | parsed (value : Value) (stop : Position)
  | failed (stop : Position) (message : String) (expectations : List String)
  deriving Repr

namespace Memo

/-- What is kept of a reply; nothing is kept of a defect. -/
def ofReply? : Reply → Option Memo
  | .success v d => some (.parsed v d.position)
  | .failure f => some (.failed f.remainder.position f.message f.expectations)
  | .defect _ => none

def restore (c : Cursor) : Memo → Reply
  | .parsed v stop => .success v (c.relocate stop)
  | .failed stop message expectations => .failure ⟨c.relocate stop, message, expectations⟩

end Memo

/-- What a guard knows of a rule at an offset. -/
inductive Entry where
  | expanding
  | done (memo : Memo)
  deriving Repr

def Entry.isExpanding : Entry → Bool
  | .expanding => true
  | .done _ => false

/-- The entries of a guard, each under the index of a rule and an offset. -/
abbrev Entries := List ((Nat × Nat) × Entry)

namespace Entries

def get? (key : Nat × Nat) : Entries → Option Entry
  | [] => none
  | (k, e) :: rest => if k = key then some e else get? key rest

def erase (key : Nat × Nat) : Entries → Entries
  | [] => []
  | (k, e) :: rest => if k = key then erase key rest else (k, e) :: erase key rest

def put (key : Nat × Nat) (e : Entry) (entries : Entries) : Entries :=
  (key, e) :: erase key entries

@[simp] theorem get?_erase_self (key : Nat × Nat) (entries : Entries) :
    (entries.erase key).get? key = none := by
  induction entries with
  | nil => rfl
  | cons entry rest ih =>
    obtain ⟨k, e⟩ := entry
    by_cases h : k = key
    · simp [erase, h, ih]
    · simp [erase, h, get?, ih]

theorem get?_erase_of_ne {key other : Nat × Nat} (h : other ≠ key) (entries : Entries) :
    (entries.erase key).get? other = entries.get? other := by
  induction entries with
  | nil => rfl
  | cons entry rest ih =>
    obtain ⟨k, e⟩ := entry
    by_cases hk : k = key
    · simp [erase, hk, get?, ih, Ne.symm h]
    · by_cases ho : k = other
      · simp [erase, get?, ho, h]
      · simp [erase, hk, get?, ho, ih]

@[simp] theorem get?_put_self (key : Nat × Nat) (e : Entry) (entries : Entries) :
    (entries.put key e).get? key = some e := by
  simp [put, get?]

theorem get?_put_of_ne {key other : Nat × Nat} (h : other ≠ key) (e : Entry)
    (entries : Entries) : (entries.put key e).get? other = entries.get? other := by
  simp [put, get?, Ne.symm h, get?_erase_of_ne h]

end Entries

/-- Which rules were entered at which places of a text, and how that ended. -/
structure Guard where
  /-- The text that the entries are about. -/
  source : Option (List Char)
  entries : Entries
  deriving Repr

namespace Guard

def empty : Guard := ⟨none, []⟩

def size (g : Guard) : Nat := g.entries.length

def isEmpty (g : Guard) : Bool := g.entries.isEmpty

def dropsEntries (g : Guard) (source : List Char) : Bool :=
  g.source ≠ some source && !g.isEmpty

/-- The guard for a text: as it is if it was bound to the same one, else empty. -/
def bind (g : Guard) (source : List Char) : Guard :=
  if g.source = some source then g else ⟨some source, []⟩

def lookup? (g : Guard) (rule : RuleId) (offset : Nat) : Option Entry :=
  g.entries.get? (rule.index, offset)

def enter (g : Guard) (rule : RuleId) (offset : Nat) : Guard :=
  { g with entries := g.entries.put (rule.index, offset) .expanding }

/-- Keep the outcome of a rule at an offset; if there is none to keep, forget that
    the rule was entered there. -/
def leave (g : Guard) (rule : RuleId) (offset : Nat) (reply : Reply) : Guard :=
  match Memo.ofReply? reply with
  | some memo => { g with entries := g.entries.put (rule.index, offset) (.done memo) }
  | none => { g with entries := g.entries.erase (rule.index, offset) }

def inspect (g : Guard) : String :=
  let expanding := g.entries.countP (·.2.isExpanding)
  s!"RecursionGuard \x7b entries: {g.size}, expanding: {expanding} \x7d"

end Guard

end Descent
