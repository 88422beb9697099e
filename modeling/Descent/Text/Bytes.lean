/-
  Descent/Text/Bytes.lean
  =======================
  **Cutting a text at a byte count** — texts are lists of characters, offsets count
  bytes.

  Both cuts keep whole characters.  At the size of a leading part they split the text
  exactly behind that part (`takeBytes_byteSize_append`, `dropBytes_byteSize_append`),
  because every character takes at least one byte.
-/

namespace Descent.Text

def byteSize : List Char → Nat
  | [] => 0
  | c :: cs => c.utf8Size + byteSize cs

/-- The leading characters that fit into `n` bytes. -/
def takeBytes : Nat → List Char → List Char
  | _, [] => []
  | n, c :: cs => if c.utf8Size ≤ n then c :: takeBytes (n - c.utf8Size) cs else []

/-- What follows the leading characters that fit into `n` bytes. -/
def dropBytes : Nat → List Char → List Char
  | _, [] => []
  | n, c :: cs => if c.utf8Size ≤ n then dropBytes (n - c.utf8Size) cs else c :: cs

theorem byteSize_append (xs ys : List Char) :
    byteSize (xs ++ ys) = byteSize xs + byteSize ys := by
  induction xs with
  | nil => simp [byteSize]
  | cons x xs ih => simp [byteSize, ih, Nat.add_assoc]

theorem takeBytes_zero (cs : List Char) : takeBytes 0 cs = [] := by
  cases cs with
  | nil => rfl
  | cons c cs =>
    have h : ¬ c.utf8Size ≤ 0 := Nat.not_le.mpr c.utf8Size_pos
    simp [takeBytes, h]

theorem dropBytes_zero (cs : List Char) : dropBytes 0 cs = cs := by
  cases cs with
  | nil => rfl
  | cons c cs =>
    have h : ¬ c.utf8Size ≤ 0 := Nat.not_le.mpr c.utf8Size_pos
    simp [dropBytes, h]

/-- The leading characters that fit into the size of a leading part are that part. -/
theorem takeBytes_byteSize_append (xs ys : List Char) :
    takeBytes (byteSize xs) (xs ++ ys) = xs := by
  induction xs with
  | nil => exact takeBytes_zero ys
  | cons x xs ih => simp [takeBytes, byteSize, ih]

/-- What follows the size of a leading part is the text behind that part. -/
theorem dropBytes_byteSize_append (xs ys : List Char) :
    dropBytes (byteSize xs) (xs ++ ys) = ys := by
  induction xs with
  | nil => exact dropBytes_zero ys
  | cons x xs ih => simp [dropBytes, byteSize, ih]

end Descent.Text
