import C4Diagram.Text.Blank

/-!
Searching in texts. Letters of different case are compared after lowering A to Z; no other letter
has a case here, because every word that is searched for is ASCII.
-/

namespace C4Diagram
namespace Text

/-- Lowers A to Z and nothing else. -/
def lowered (t : Text) : Text := t.map Char.toLower

/-- What follows each occurrence of `word`, from the first occurrence on. Occurrences may overlap. -/
def afterEach (t word : Text) : List Text :=
  match t with
  | [] => if word.isEmpty then [[]] else []
  | c :: r => (after? (c :: r) word).toList ++ afterEach r word

def mentions (t word : Text) : Bool := !(t.afterEach word).isEmpty

def startsWithLowered (t word : Text) : Bool := word.isPrefixOf t.lowered

def ofNat (n : Nat) : Text := Nat.toDigits 10 n

end Text
end C4Diagram
