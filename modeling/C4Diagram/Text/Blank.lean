/-!
Texts are lists of characters, so that every reader below is a recursion on its input. Blank
characters are those with the Unicode property White_Space; `Text.trim` drops them at both ends.
What remains is pinned by three facts: trimming keeps a text that has no blank at either end, it
drops a blank that is put in front, and a trimmed text starts with no blank.
-/

namespace C4Diagram

abbrev Text := List Char

/-- The characters with the Unicode property White_Space. -/
def isBlank (c : Char) : Bool :=
  let n := c.toNat
  (0x9 ≤ n && n ≤ 0xD) || n == 0x20 || n == 0x85 || n == 0xA0 || n == 0x1680 ||
    (0x2000 ≤ n && n ≤ 0x200A) || n == 0x2028 || n == 0x2029 || n == 0x202F || n == 0x205F ||
    n == 0x3000

/-- Space, tab, carriage return and line feed: what may stand around the name of a call. -/
def isSpacing (c : Char) : Bool := c == ' ' || c == '\t' || c == '\r' || c == '\n'

theorem isBlank_of_isSpacing {c : Char} (h : isSpacing c = true) : isBlank c = true := by
  simp only [isSpacing, Bool.or_eq_true, beq_iff_eq] at h
  rcases h with ((h | h) | h) | h <;> subst h <;> decide

namespace Text

def dropEndWhile (p : Char → Bool) (t : Text) : Text := (t.reverse.dropWhile p).reverse

def trimStart (t : Text) : Text := t.dropWhile isBlank

def trimEnd (t : Text) : Text := dropEndWhile isBlank t

def trim (t : Text) : Text := trimEnd (trimStart t)

def beforeLast? (c : Char) (t : Text) : Option Text :=
  match t.reverse with
  | d :: r => if d = c then some r.reverse else none
  | [] => none

def after? (t start : Text) : Option Text :=
  if start.isPrefixOf t then some (t.drop start.length) else none

def dropLeading (c : Char) : Text → Text
  | [] => []
  | d :: r => if d = c then r else d :: r

theorem trimStart_cons {c : Char} (h : isBlank c = true) (t : Text) : trimStart (c :: t) = trimStart t := by
  simp [trimStart, h]

theorem trimStart_eq_self {c : Char} (h : isBlank c = false) (t : Text) : trimStart (c :: t) = c :: t := by
  simp [trimStart, h]

theorem trimEnd_append_blank {c : Char} (h : isBlank c = true) (t : Text) : trimEnd (t ++ [c]) = trimEnd t := by
  simp [trimEnd, dropEndWhile, h]

theorem trimEnd_eq_self {c : Char} (h : isBlank c = false) (t : Text) : trimEnd (t ++ [c]) = t ++ [c] := by
  simp [trimEnd, dropEndWhile, h]

end Text
end C4Diagram
