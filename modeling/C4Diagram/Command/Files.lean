import C4Diagram.Failure
import C4Diagram.Text.Lines

/-!
Files as commands see them: what reading a path gives and what writing to it makes of the files.
One such file system is a tree of files in which paths are walked name by name, from the root or
from the working directory. Writing a node changes what is at its place and nothing else.
-/

namespace C4Diagram

/-- What reading a path gives, and whether something is there, which may be so even if it cannot be
read. -/
structure FileReader where
  content : Text → Except FileError ByteArray
  finds : Text → Bool
  finds_of_content {path : Text} {bytes : ByteArray} : content path = .ok bytes → finds path = true

namespace FileReader

/-- What can be read is there. -/
def ofContent (content : Text → Except FileError ByteArray) (finds : Text → Bool) : FileReader where
  content
  finds path := (content path).isOk || finds path
  finds_of_content h := by rw [h]; rfl

def readText (read : FileReader) (path : Text) : Except FileError Text := do
  match Text.ofUtf8? (← read.content path) with
  | some t => .ok t
  | none => .error .notUtf8

end FileReader

/-- Files that can be read, and written with a text at a path. A write that fails leaves the files
as they are. -/
structure FileSystem (σ : Type) where
  read : σ → FileReader
  write : σ → (path t : Text) → Except FileError σ

inductive FileNode where
  | file (content : ByteArray)
  | directory

/-- What exists, by the names on the way from the root, which itself always exists. -/
structure Files where
  nodes : List (List Text × FileNode)
  working : List Text

namespace Files

def node? (f : Files) (place : List Text) : Option FileNode :=
  if place.isEmpty then some .directory else f.nodes.lookup place

/-- Why a name leads nowhere: there is no file of that name, and with more than 255 bytes there
cannot be one. -/
def missing (name : Text) : FileError := if 255 < name.utf8Size then .nameTooLong else .notFound

/-- Where a walk over names ends and what is there; the last name need not exist. -/
def walk (f : Files) (place : List Text) : (names : List Text) → Except FileError (List Text × Option FileNode)
  | [] => .ok (place, some .directory)
  | name :: rest =>
    if name = ['.'] then f.walk place rest
    else if name = ['.', '.'] then f.walk place.dropLast rest
    else
      match f.node? (place ++ [name]) with
      | some .directory => f.walk (place ++ [name]) rest
      | some (.file content) =>
        if rest.isEmpty then .ok (place ++ [name], some (.file content)) else .error .notDirectory
      | none => if rest.isEmpty then .ok (place ++ [name], none) else .error (missing name)

/-- What a path leads to. It has less than 4096 bytes. -/
def resolve (f : Files) (path : Text) : Except FileError (List Text × Option FileNode) :=
  if path.contains '\x00' then .error .nulInName
  else if path.isEmpty then .error .notFound
  else if 4096 ≤ path.utf8Size then .error .nameTooLong
  else f.walk (if path.head? = some '/' then [] else f.working) ((Text.pieces '/' path).filter (!·.isEmpty))

def namesDirectory (path : Text) : Bool := path.getLast? = some '/'

def content (f : Files) (path : Text) : Except FileError ByteArray := do
  match ← f.resolve path with
  | (_, some (.file content)) => if namesDirectory path then .error .notDirectory else .ok content
  | (_, some .directory) => .error .isDirectory
  | (place, none) => .error (missing (place.getLast?.getD []))

/-- The path leads to something, which is a directory if the path ends in a slash. -/
def finds (f : Files) (path : Text) : Bool :=
  match f.resolve path with
  | .ok (_, some (.file _)) => !namesDirectory path
  | .ok (_, some .directory) => true
  | .ok (_, none) | .error _ => false

theorem finds_of_content {f : Files} {path : Text} {bytes : ByteArray}
    (h : f.content path = .ok bytes) : f.finds path = true := by
  unfold content at h
  unfold finds
  cases hr : f.resolve path with
  | error e => rw [hr] at h; cases h
  | ok found =>
    obtain ⟨place, node⟩ := found
    rw [hr] at h
    cases node with
    | none => cases h
    | some node =>
      cases node with
      | directory => rfl
      | file old =>
        dsimp only [bind, Except.bind] at h ⊢
        cases hname : namesDirectory path with
        | true => rw [hname] at h; cases h
        | false => rfl

def read (f : Files) : FileReader := ⟨f.content, f.finds, finds_of_content⟩

def put (f : Files) (place : List Text) (node : FileNode) : Files :=
  { f with nodes := (place, node) :: f.nodes.filter (fun e => e.1 ≠ place) }

def writeText (f : Files) (path : Text) (t : Text) : Except FileError Files := do
  match ← f.resolve path with
  | (_, some .directory) => .error .isDirectory
  | (place, node) =>
    if namesDirectory path then .error .isDirectory
    else if node.isNone && missing (place.getLast?.getD []) = .nameTooLong then .error .nameTooLong
    else .ok (f.put place (.file t.utf8))

def system : FileSystem Files := ⟨read, writeText⟩

end Files
end C4Diagram
