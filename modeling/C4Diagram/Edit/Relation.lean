import C4Diagram.Edit.Quoted
import C4Diagram.Text.Lines
import C4Diagram.Vocabulary.Relation

/-!
Relations to insert, and the call that states one.
-/

namespace C4Diagram

structure NewRelation where
  kind : RelationKind
  source : Text
  target : Text
  label : Text
  technology : Option Text
  description : Option Text
deriving DecidableEq

namespace NewRelation

def arguments (r : NewRelation) : List Text :=
  let technology := (present? r.technology).toList.map fun v => namedArgument "$techn".toList (quote v)
  let description := (present? r.description).toList.map fun v => namedArgument "$descr".toList (quote v)
  [namedArgument "$from".toList r.source, namedArgument "$to".toList r.target,
    namedArgument "$label".toList (quote r.label.trim)] ++ technology ++ description

def written (r : NewRelation) : Text :=
  r.kind.name ++ ['('] ++ Text.join ", ".toList r.arguments ++ [')']

end NewRelation
end C4Diagram
