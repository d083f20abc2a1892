import C4Diagram.Edit.Quoted
import C4Diagram.Text.Lines
import C4Diagram.Vocabulary.Element

/-!
Elements to insert, and the call that declares one.
-/

namespace C4Diagram

inductive Place where
  | documentLevel
  | boundary (aliasName : Text)
deriving DecidableEq

structure NewElement where
  kind : ElementKind
  aliasName : Text
  label : Text
  technology : Option Text
  description : Option Text
  place : Place
deriving DecidableEq

namespace NewElement

/-- The arguments of the declaring call. A technology counts only where the kind has one, and a
blank technology or description is left out. -/
def arguments (e : NewElement) : List Text :=
  let technology :=
    match e.kind.technologyArgument, present? e.technology with
    | some argument, some value => [namedArgument argument.written (quote value)]
    | _, _ => []
  let description := (present? e.description).toList.map fun v => namedArgument "$descr".toList (quote v)
  [namedArgument "$alias".toList e.aliasName, namedArgument "$label".toList (quote e.label.trim)] ++
    technology ++ description

/-- The declaring call; a boundary's ends in an opening brace. -/
def written (e : NewElement) : Text :=
  e.kind.name ++ ['('] ++ Text.join ", ".toList e.arguments ++ [')'] ++
    if e.kind.isBoundary then " \x7b".toList else []

/-- The lines that declare the element: a boundary comes with the end of its block. -/
def lines (e : NewElement) : List Text :=
  if e.kind.isBoundary then [e.written, ['}']] else [e.written]

end NewElement
end C4Diagram
