import C4Diagram.Url.Operations
import C4Diagram.Vocabulary.Level

/-!
Settings: the server that renders diagrams, the image format, and the level of the diagram. The
server's address is kept as it was given and read when it is needed; it has to be an address that
can take path segments.
-/

namespace C4Diagram

inductive ImageFormat where
  | svg
  | png
deriving DecidableEq

namespace ImageFormat

def all : List ImageFormat := [svg, png]

def name : ImageFormat → Text
  | svg => "svg".toList
  | png => "png".toList

def ofName? (n : Text) : Option ImageFormat := all.find? (fun f => f.name == n)

theorem ofName?_name (f : ImageFormat) : ofName? f.name = some f := by cases f <;> decide

end ImageFormat

inductive ServerError where
  | invalidUrl (given : Text) (e : Url.UrlError)
  | noPathSegments (given : Text)
deriving DecidableEq

namespace ServerError

def message : ServerError → Text
  | invalidUrl given e => "Invalid render server URL `".toList ++ given ++ "`: ".toList ++ e.message
  | noPathSegments given => "Render server URL `".toList ++ given ++ "` cannot have path segments".toList

end ServerError

structure RenderSettings where
  server : Text
  format : ImageFormat
deriving DecidableEq

/-- The address of the server, as far as it can be read and its path is not opaque. -/
def UrlOperations.serverUrl {α : Type} (urls : UrlOperations α) (s : RenderSettings) :
    Except ServerError α :=
  match urls.read s.server with
  | .error e => .error (.invalidUrl s.server e)
  | .ok url => if urls.isOpaque url then .error (.noPathSegments s.server) else .ok url

namespace RenderSettings

def publicServer : Text := "https://www.plantuml.com/plantuml".toList

def default : RenderSettings := ⟨publicServer, .svg⟩

def serverUrl (s : RenderSettings) : Except ServerError Url := Url.operations.serverUrl s

end RenderSettings

structure Settings where
  render : RenderSettings
  level : Level
deriving DecidableEq

namespace Settings

def default : Settings := ⟨.default, .default⟩

def withLevel (s : Settings) (level : Option Level) : Settings := { s with level := level.getD s.level }

end Settings
end C4Diagram
