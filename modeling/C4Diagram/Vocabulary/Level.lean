import C4Diagram.Vocabulary.Element

/-!
The four levels of a diagram. Each level has its module of the standard library and the element
kinds that may be inserted at it.
-/

namespace C4Diagram

inductive Level where
  | context
  | container
  | component
  | deployment
deriving DecidableEq

namespace Level

def all : List Level := [context, container, component, deployment]

def default : Level := container

def name : Level → Text
  | context => "context".toList
  | container => "container".toList
  | component => "component".toList
  | deployment => "deployment".toList

def libraryFile : Level → Text
  | context => "C4_Context.puml".toList
  | container => "C4_Container.puml".toList
  | component => "C4_Component.puml".toList
  | deployment => "C4_Deployment.puml".toList

def libraryAddress : Text :=
  "https://raw.githubusercontent.com/plantuml-stdlib/C4-PlantUML/master".toList

def includeLine (l : Level) : Text :=
  "!include ".toList ++ libraryAddress ++ "/".toList ++ l.libraryFile

def elementKinds : Level → List ElementKind
  | context =>
    [.person, .personExt, .system, .systemExt, .systemDb, .systemDbExt, .systemQueue,
     .systemQueueExt, .boundary, .enterpriseBoundary, .systemBoundary]
  | container =>
    [.person, .personExt, .system, .systemExt, .container, .containerExt, .containerDb,
     .containerDbExt, .containerQueue, .containerQueueExt, .boundary, .enterpriseBoundary,
     .systemBoundary, .containerBoundary]
  | component =>
    [.person, .personExt, .system, .systemExt, .container, .containerExt, .component, .componentExt,
     .componentDb, .componentDbExt, .componentQueue, .componentQueueExt, .boundary,
     .enterpriseBoundary, .systemBoundary, .containerBoundary]
  | deployment =>
    [.person, .personExt, .system, .systemExt, .container, .containerExt, .containerDb,
     .containerDbExt, .deploymentNode, .node, .nodeL, .nodeR, .boundary, .enterpriseBoundary,
     .systemBoundary, .containerBoundary]

def allows (l : Level) (k : ElementKind) : Bool := l.elementKinds.contains k

def ofName? (n : Text) : Option Level := all.find? (fun l => l.name == n)

def read (n : Text) : Except UnknownKind Level :=
  match ofName? n with
  | some l => .ok l
  | none => .error ⟨.diagrams, n⟩

theorem mem_all (l : Level) : l ∈ all := by cases l <;> decide

theorem ofName?_name (l : Level) : ofName? l.name = some l := by cases l <;> decide

theorem name_of_ofName? {n : Text} {l : Level} (h : ofName? n = some l) : l.name = n := by
  simpa using List.find?_some h

end Level
end C4Diagram
