import C4Diagram.Text.Blank

/-!
A name that belongs to none of the words of the vocabulary it was looked up in.
-/

namespace C4Diagram

inductive Vocabulary where
  | elements
  | relations
  | diagrams
deriving DecidableEq

namespace Vocabulary

def wordTitle : Vocabulary → Text
  | elements => "element kind".toList
  | relations => "relation kind".toList
  | diagrams => "diagram kind".toList

end Vocabulary

structure UnknownKind where
  vocabulary : Vocabulary
  name : Text
deriving DecidableEq

namespace UnknownKind

def message (u : UnknownKind) : Text :=
  "unknown ".toList ++ u.vocabulary.wordTitle ++ " `".toList ++ u.name ++ "`".toList

end UnknownKind
end C4Diagram
