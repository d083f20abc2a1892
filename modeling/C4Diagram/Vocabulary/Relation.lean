import C4Diagram.Text.Blank
import C4Diagram.Vocabulary.Unknown

/-!
The macros that relate two elements. The vocabulary is closed, while the naming convention is open:
any qualifier of letters after the base name makes a relation name, so that a relation macro that
is not in the vocabulary is never taken for an element.
-/

namespace C4Diagram

inductive RelationKind where
  | rel
  | relUp
  | relDown
  | relLeft
  | relRight
  | relNeighbor
  | biRel
  | biRelUp
  | biRelDown
  | biRelLeft
  | biRelRight
deriving DecidableEq

namespace RelationKind

def all : List RelationKind :=
  [rel, relUp, relDown, relLeft, relRight, relNeighbor, biRel, biRelUp, biRelDown, biRelLeft,
   biRelRight]

def name : RelationKind → Text
  | rel => "Rel".toList
  | relUp => "Rel_U".toList
  | relDown => "Rel_D".toList
  | relLeft => "Rel_L".toList
  | relRight => "Rel_R".toList
  | relNeighbor => "Rel_Neighbor".toList
  | biRel => "BiRel".toList
  | biRelUp => "BiRel_U".toList
  | biRelDown => "BiRel_D".toList
  | biRelLeft => "BiRel_L".toList
  | biRelRight => "BiRel_R".toList

def isBidirectional : RelationKind → Bool
  | biRel | biRelUp | biRelDown | biRelLeft | biRelRight => true
  | _ => false

def ofName? (n : Text) : Option RelationKind := all.find? (fun k => k.name == n)

def read (n : Text) : Except UnknownKind RelationKind :=
  match ofName? n with
  | some k => .ok k
  | none => .error ⟨.relations, n⟩

def afterBase? (n : Text) : Option Text := (n.after? "BiRel".toList).or (n.after? "Rel".toList)

def isQualifier : Text → Bool
  | [] => true
  | '_' :: letters => !letters.isEmpty && letters.all Char.isAlpha
  | _ => false

def isRelationName (n : Text) : Bool := (afterBase? n).any isQualifier

theorem mem_all (k : RelationKind) : k ∈ all := by cases k <;> decide

theorem ofName?_name (k : RelationKind) : ofName? k.name = some k := by cases k <;> decide

theorem name_of_ofName? {n : Text} {k : RelationKind} (h : ofName? n = some k) : k.name = n := by
  simpa using List.find?_some h

theorem isRelationName_name (k : RelationKind) : isRelationName k.name = true := by cases k <;> decide

end RelationKind
end C4Diagram
