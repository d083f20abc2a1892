import C4Diagram.Text.Blank

/-!
Identifiers name elements and named arguments: a letter or underscore, then letters, digits and
underscores, all ASCII.
-/

namespace C4Diagram

def isIdentifierStart (c : Char) : Bool := c.isAlpha || c == '_'

def isIdentifierChar (c : Char) : Bool := c.isAlphanum || c == '_'

def isIdentifier : Text → Bool
  | [] => false
  | c :: r => isIdentifierStart c && r.all isIdentifierChar

theorem isIdentifierChar_of_start {c : Char} (h : isIdentifierStart c = true) : isIdentifierChar c = true := by
  simp only [isIdentifierStart, isIdentifierChar, Char.isAlphanum, Bool.or_eq_true] at h ⊢
  rcases h with h | h
  · exact .inl (.inl h)
  · exact .inr h

theorem all_isIdentifierChar {t : Text} (h : isIdentifier t = true) : t.all isIdentifierChar = true := by
  cases t with
  | nil => rfl
  | cons c r =>
    simp only [isIdentifier, Bool.and_eq_true] at h
    simp [isIdentifierChar_of_start h.1, h.2]

end C4Diagram
