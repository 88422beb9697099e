/-
  Descent/Chars/Space.lean
  ========================
  **White space** — the characters that count as blank.

  The property White_Space of the Unicode character database.  Besides the ASCII
  blanks it holds the no-break space, the typographic spaces and the line and
  paragraph separators; a zero-width space is not blank.
-/
import Descent.Chars.Run

namespace Descent.Chars

/-- The code points with the property White_Space. -/
def spaceRuns : List Run :=
  [⟨0x9, 0xD, 1⟩, ⟨0x20, 0x20, 1⟩, ⟨0x85, 0x85, 1⟩, ⟨0xA0, 0xA0, 1⟩, ⟨0x1680, 0x1680, 1⟩,
    ⟨0x2000, 0x200A, 1⟩, ⟨0x2028, 0x2029, 1⟩, ⟨0x202F, 0x202F, 1⟩, ⟨0x205F, 0x205F, 1⟩,
    ⟨0x3000, 0x3000, 1⟩]

def isSpace (c : Char) : Bool := covers spaceRuns c

end Descent.Chars
