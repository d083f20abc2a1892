import C4Diagram.Edit.Element
import C4Diagram.Edit.Relation
import C4Diagram.Vocabulary.Level

/-!
The commands: each reads a diagram, unless it writes the starter, and shows something about it or
writes a changed one, to a file where one is named.
-/

namespace C4Diagram

inductive Command where
  | new (output : Option Text)
  | outline (input : Text)
  | check (input : Text)
  | addElement (input : Text) (element : NewElement) (level : Option Level) (output : Option Text)
  | addRelation (input : Text) (relation : NewRelation) (output : Option Text)
  | normalize (input : Text) (level : Option Level) (output : Option Text)
  | url (input : Text) (level : Option Level)
deriving DecidableEq

namespace Command

def input? : Command → Option Text
  | new _ => none
  | outline input => some input
  | check input => some input
  | addElement input _ _ _ => some input
  | addRelation input _ _ => some input
  | normalize input _ _ => some input
  | url input _ => some input

end Command

/-- A command and the file that its settings come from, where one is named. -/
structure Invocation where
  settingsPath : Option Text
  command : Command
deriving DecidableEq

end C4Diagram
