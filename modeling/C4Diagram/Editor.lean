import C4Diagram.Edit.Placement
import C4Diagram.Vocabulary.Level

/-!
Edits that are checked before they touch the text. Every value is trimmed. An alias has to be a
fresh identifier, a label must not be blank, a quoted value has to fit on one line, the kind has to
belong to the level of the diagram, and the ends of a relation have to be declared. The first rule
that is broken, in the order of the checks below, is the error.
-/

namespace C4Diagram

inductive Field where
  | label
  | technology
  | description
deriving DecidableEq

namespace Field

def name : Field → Text
  | label => "label".toList
  | technology => "technology".toList
  | description => "description".toList

end Field

inductive EditError where
  | emptyAlias
  | invalidAlias (aliasName : Text)
  | emptyLabel
  | lineBreak (field : Field)
  | duplicateAlias (aliasName : Text)
  | kindNotAllowed (kind : ElementKind) (level : Level)
  | missingEndpoint
  | unknownAlias (aliasName : Text)
  | placement (e : PlacementError)
deriving DecidableEq

namespace EditError

def message : EditError → Text
  | emptyAlias => "alias must not be empty".toList
  | invalidAlias aliasName =>
    "alias `".toList ++ aliasName ++
      "` is not an identifier (letters, digits and `_`, not starting with a digit)".toList
  | emptyLabel => "label must not be empty".toList
  | lineBreak field => field.name ++ " must fit on one line".toList
  | duplicateAlias aliasName => "alias `".toList ++ aliasName ++ "` already exists".toList
  | kindNotAllowed kind level =>
    "`".toList ++ kind.name ++ "` elements are not available in ".toList ++ level.name ++
      " diagrams".toList
  | missingEndpoint => "relation needs both a source and a target alias".toList
  | unknownAlias aliasName => "no element with alias `".toList ++ aliasName ++ "`".toList
  | placement e => e.message

end EditError

namespace Editor

def oneLine (field : Field) (value : Text) : Except EditError Unit :=
  if value.contains '\n' || value.contains '\r' then .error (.lineBreak field) else .ok ()

/-- The checks of quoted values, in the order in which they are written. -/
def oneLineEach (label : Text) (technology description : Option Text) : Except EditError Unit := do
  oneLine .label label
  oneLine .technology (technology.getD [])
  oneLine .description (description.getD [])

def trimmedElement (e : NewElement) : NewElement :=
  { e with
    aliasName := e.aliasName.trim
    label := e.label.trim
    technology := e.technology.map Text.trim
    description := e.description.map Text.trim }

def trimmedRelation (r : NewRelation) : NewRelation :=
  { r with
    source := r.source.trim
    target := r.target.trim
    label := r.label.trim
    technology := r.technology.map Text.trim
    description := r.description.map Text.trim }

/-- What an element has to satisfy, apart from its place; its values are trimmed. -/
def validateElement (level : Level) (o : Outline) (e : NewElement) : Except EditError Unit := do
  if e.aliasName.isEmpty then throw .emptyAlias
  if e.label.isEmpty then throw .emptyLabel
  if !isIdentifier e.aliasName then throw (.invalidAlias e.aliasName)
  oneLineEach e.label e.technology e.description
  if !level.allows e.kind then throw (.kindNotAllowed e.kind level)
  if o.containsAlias e.aliasName then throw (.duplicateAlias e.aliasName)

def validateRelation (o : Outline) (r : NewRelation) : Except EditError Unit := do
  if r.source.isEmpty || r.target.isEmpty then throw .missingEndpoint
  if r.label.isEmpty then throw .emptyLabel
  oneLineEach r.label r.technology r.description
  if !o.containsAlias r.source then throw (.unknownAlias r.source)
  if !o.containsAlias r.target then throw (.unknownAlias r.target)

def addElement (level : Level) (source : Text) (e : NewElement) : Except EditError Text := do
  let outline := Outline.read source
  let element := trimmedElement e
  validateElement level outline element
  (outline.insertElement element).mapError .placement

def addRelation (source : Text) (r : NewRelation) : Except EditError Text := do
  let outline := Outline.read source
  let relation := trimmedRelation r
  validateRelation outline relation
  return outline.insertRelation relation

end Editor
end C4Diagram
