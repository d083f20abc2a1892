import C4Diagram.Text.Blank

/-!
Lines of a text. `Text.pieces c` cuts at every `c` and `Text.join` puts a separator between pieces;
joining the pieces gives the text back, so line splitting loses nothing but what is stripped later.
-/

namespace C4Diagram
namespace Text

/-- The stretches between the occurrences of `sep`: one more than there are occurrences. -/
def pieces (sep : Char) : Text → List Text
  | [] => [[]]
  | c :: r =>
    if c = sep then [] :: pieces sep r
    else
      match pieces sep r with
      | p :: ps => (c :: p) :: ps
      | [] => [[c]]

def join (sep : Text) : List Text → Text
  | [] => []
  | [t] => t
  | t :: ts => t ++ sep ++ join sep ts

def rawLines (t : Text) : List Text := pieces '\n' t

/-- A carriage return in front of a line feed belongs to the line's end, not to the line. -/
def withoutReturn (line : Text) : Text := (line.beforeLast? '\r').getD line

def lines (t : Text) : List Text := t.rawLines.map withoutReturn

def joinLines (ls : List Text) : Text := join ['\n'] ls

theorem pieces_ne_nil (sep : Char) (t : Text) : pieces sep t ≠ [] := by
  cases t with
  | nil => simp [pieces]
  | cons c r =>
    rw [pieces]
    split
    · simp
    · split <;> simp

theorem join_cons (sep t : Text) {ts : List Text} (h : ts ≠ []) : join sep (t :: ts) = t ++ sep ++ join sep ts := by
  cases ts with
  | nil => exact absurd rfl h
  | cons u us => rfl

theorem join_pieces (sep : Char) (t : Text) : join [sep] (pieces sep t) = t := by
  induction t with
  | nil => rfl
  | cons c r ih =>
    rw [pieces]
    split
    · next h => rw [join_cons _ _ (pieces_ne_nil sep r), ih, h]; rfl
    · split
      · next p ps he =>
        rw [he] at ih
        cases ps with
        | nil => simpa [join] using ih
        | cons q qs => simpa [join] using ih
      · next he => exact absurd he (pieces_ne_nil sep r)

theorem joinLines_rawLines (t : Text) : joinLines (rawLines t) = t := join_pieces '\n' t

end Text
end C4Diagram
