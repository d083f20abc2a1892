import C4Diagram.Edit.Element
import C4Diagram.Edit.Relation
import C4Diagram.Outline.Build
import C4Diagram.Text.Search

/-!
Where new lines go. A relation follows the last relation. An element at document level goes before
the first relation; without relations both go before the line that ends the diagram, else to the
end. An element inside a boundary goes right before the line that closes it. The other lines stay
as they are, and all lines are joined by line feeds.
-/

namespace C4Diagram

inductive PlacementError where
  | parentNotFound (aliasName : Text)
  | unterminatedBoundary (aliasName : Text)
deriving DecidableEq

namespace PlacementError

def message : PlacementError → Text
  | parentNotFound aliasName => "no boundary with alias `".toList ++ aliasName ++ "`".toList
  | unterminatedBoundary aliasName => "boundary `".toList ++ aliasName ++ "` has no closing `\x7d`".toList

end PlacementError

namespace Placement

def isRelationLine (line : Text) : Bool := (relationCall? line).isSome

def isEndLine (line : Text) : Bool := line.lowered.mentions "@enduml".toList

/-- Past the last line, but before an empty last line: a final line feed stays final. -/
def endOfDocument (lines : List Text) : Nat :=
  if lines.getLast? = some [] then lines.length - 1 else lines.length

def rootIndex (lines : List Text) : Nat :=
  ((lines.findIdx? isRelationLine).or (lines.findIdx? isEndLine)).getD (endOfDocument lines)

def relationIndex (lines : List Text) : Nat :=
  match lines.reverse.findIdx? isRelationLine with
  | some after => lines.length - after
  | none => rootIndex lines

/-- The first line from `index` on that has a closing brace and leaves no brace open, where `depth`
braces are open before it. -/
def balancingLine? (depth : Int) (index : Nat) : List Text → Option Nat
  | [] => none
  | l :: ls =>
    let after := depth + l.count '{' - l.count '}'
    if 0 < l.count '}' ∧ after = 0 then some index else balancingLine? after (index + 1) ls

/-- The line that ends the block of a boundary: the recorded one, else the one that balances the
braces from its declaration on. -/
def closingLine? (o : Outline) (boundary : Node) : Option Nat :=
  boundary.closingLine.or (balancingLine? 0 boundary.line (o.lines.drop boundary.line))

def indentation (line : Text) : Text := line.takeWhile isBlank

def splice (lines : List Text) (index : Nat) (inserted : List Text) : Text :=
  Text.joinLines (lines.take index ++ inserted ++ lines.drop index)

def ofElement (o : Outline) (e : NewElement) : Except PlacementError (Nat × List Text) :=
  match e.place with
  | .documentLevel => .ok (rootIndex o.lines, e.lines)
  | .boundary aliasName =>
    match o.boundary? aliasName with
    | none => .error (.parentNotFound aliasName)
    | some boundary =>
      match closingLine? o boundary with
      | none => .error (.unterminatedBoundary aliasName)
      | some index =>
        let indent := indentation (o.lines.getD boundary.line []) ++ "  ".toList
        .ok (index, e.lines.map (indent ++ ·))

end Placement

namespace Outline

def insertElement (o : Outline) (e : NewElement) : Except PlacementError Text :=
  (Placement.ofElement o e).map fun (index, lines) => Placement.splice o.lines index lines

/-- The text with the element in its place, or unchanged if it has none. -/
def insertElementIfPlaced (o : Outline) (e : NewElement) : Text :=
  match o.insertElement e with
  | .ok text => text
  | .error _ => o.source

def insertRelation (o : Outline) (r : NewRelation) : Text :=
  Placement.splice o.lines (Placement.relationIndex o.lines) [r.written]

end Outline
end C4Diagram
