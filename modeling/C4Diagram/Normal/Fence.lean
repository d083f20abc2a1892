import C4Diagram.Text.Search

/-!
Code fences of a pasted text. A fence is three backticks, with the tag of the diagram language where
one follows in any case; fences are removed from left to right, wherever they stand.
-/

namespace C4Diagram

def fenceMark : Text := ['\x60', '\x60', '\x60']

def fenceTags : List Text := ["plantuml".toList, "puml".toList]

def fenceTagLength (t : Text) : Nat :=
  ((fenceTags.find? t.startsWithLowered).map List.length).getD 0

/-- The length of the fence that the text starts with, its tag included; 0 if there is none. -/
def fenceLength (t : Text) : Nat :=
  match t.after? fenceMark with
  | some rest => fenceMark.length + fenceTagLength rest
  | none => 0

/-- The text without its fences, and without the first `skip` characters. -/
def dropFences (skip : Nat) : Text → Text
  | [] => []
  | c :: r =>
    match skip with
    | n + 1 => dropFences n r
    | 0 =>
      match fenceLength (c :: r) with
      | n + 1 => dropFences n r
      | 0 => c :: dropFences 0 r

def Text.withoutFences (t : Text) : Text := dropFences 0 t

end C4Diagram
