import C4Diagram.Text.Blank
import C4Diagram.Vocabulary.Unknown

/-!
The macros that declare elements. A kind is a leaf or a boundary; a boundary groups other elements
in a block of its own. Names identify kinds: reading the name of a kind gives the kind back.
-/

namespace C4Diagram

inductive ElementKind where
  | person
  | personExt
  | system
  | systemExt
  | systemDb
  | systemDbExt
  | systemQueue
  | systemQueueExt
  | container
  | containerExt
  | containerDb
  | containerDbExt
  | containerQueue
  | containerQueueExt
  | component
  | componentExt
  | componentDb
  | componentDbExt
  | componentQueue
  | componentQueueExt
  | boundary
  | enterpriseBoundary
  | systemBoundary
  | containerBoundary
  | deploymentNode
  | node
  | nodeL
  | nodeR
deriving DecidableEq

/-- The argument that holds what an element is made of: the type of a person or system, the
technology of any other leaf. -/
inductive TechnologyArgument where
  | actorType
  | technology
deriving DecidableEq

namespace TechnologyArgument

def written : TechnologyArgument → Text
  | actorType => "$type".toList
  | technology => "$techn".toList

end TechnologyArgument

namespace ElementKind

def all : List ElementKind :=
  [person, personExt, system, systemExt, systemDb, systemDbExt, systemQueue, systemQueueExt,
   container, containerExt, containerDb, containerDbExt, containerQueue, containerQueueExt,
   component, componentExt, componentDb, componentDbExt, componentQueue, componentQueueExt,
   boundary, enterpriseBoundary, systemBoundary, containerBoundary, deploymentNode, node, nodeL,
   nodeR]

def name : ElementKind → Text
  | person => "Person".toList
  | personExt => "Person_Ext".toList
  | system => "System".toList
  | systemExt => "System_Ext".toList
  | systemDb => "SystemDb".toList
  | systemDbExt => "SystemDb_Ext".toList
  | systemQueue => "SystemQueue".toList
  | systemQueueExt => "SystemQueue_Ext".toList
  | container => "Container".toList
  | containerExt => "Container_Ext".toList
  | containerDb => "ContainerDb".toList
  | containerDbExt => "ContainerDb_Ext".toList
  | containerQueue => "ContainerQueue".toList
  | containerQueueExt => "ContainerQueue_Ext".toList
  | component => "Component".toList
  | componentExt => "Component_Ext".toList
  | componentDb => "ComponentDb".toList
  | componentDbExt => "ComponentDb_Ext".toList
  | componentQueue => "ComponentQueue".toList
  | componentQueueExt => "ComponentQueue_Ext".toList
  | boundary => "Boundary".toList
  | enterpriseBoundary => "Enterprise_Boundary".toList
  | systemBoundary => "System_Boundary".toList
  | containerBoundary => "Container_Boundary".toList
  | deploymentNode => "Deployment_Node".toList
  | node => "Node".toList
  | nodeL => "Node_L".toList
  | nodeR => "Node_R".toList

def isBoundary : ElementKind → Bool
  | boundary | enterpriseBoundary | systemBoundary | containerBoundary | deploymentNode | node
  | nodeL | nodeR => true
  | _ => false

def technologyArgument (k : ElementKind) : Option TechnologyArgument :=
  match k with
  | person | personExt | system | systemExt => some .actorType
  | _ => if k.isBoundary then none else some .technology

def ofName? (n : Text) : Option ElementKind := all.find? (fun k => k.name == n)

def read (n : Text) : Except UnknownKind ElementKind :=
  match ofName? n with
  | some k => .ok k
  | none => .error ⟨.elements, n⟩

theorem mem_all (k : ElementKind) : k ∈ all := by cases k <;> decide

theorem ofName?_name (k : ElementKind) : ofName? k.name = some k := by cases k <;> decide

theorem name_of_ofName? {n : Text} {k : ElementKind} (h : ofName? n = some k) : k.name = n := by
  simpa using List.find?_some h

end ElementKind
end C4Diagram
