import C4Diagram.Libraries
import C4Diagram.Normal.Document

/-!
The address that renders a diagram: the server's address, the image format, and the code of the
normalized text. A text without content has no such address, whatever the server.
-/

namespace C4Diagram

/-- Why a step on the way to the address fails: the server is refused, or its path turns out to take no
segments when they are to be added. -/
inductive RenderError where
  | server (e : ServerError)
  | noPathSegments
deriving DecidableEq

namespace RenderError

def message : RenderError → Text
  | server e => e.message
  | noPathSegments => "Render server URL cannot have path segments".toList

end RenderError

namespace Libraries

variable {α : Type} (lib : Libraries α)

def renderUrl (source : Text) (level : Level) (settings : RenderSettings) :
    Except ServerError (Option α) :=
  let text := normalize source level
  if text.isEmpty then .ok none
  else (lib.urls.serverUrl settings).map fun url =>
    some (lib.urls.extend url settings.format.name (lib.compression.encode text))

/-- The address step by step: once the server's address has been read, it is asked again whether its
path takes segments. -/
def renderUrlInSteps (source : Text) (level : Level) (settings : RenderSettings) :
    Except RenderError (Option α) := do
  let text := normalize source level
  if text.isEmpty then return none
  let code := lib.compression.encode text
  let url ← (lib.urls.serverUrl settings).mapError .server
  if !lib.urls.takesSegments url then throw .noPathSegments
  return some (lib.urls.extend url settings.format.name code)

end Libraries

def renderUrl (source : Text) (level : Level) (settings : RenderSettings) :
    Except ServerError (Option Url) :=
  Libraries.own.renderUrl source level settings

def renderUrlInSteps (source : Text) (level : Level) (settings : RenderSettings) :
    Except RenderError (Option Url) :=
  Libraries.own.renderUrlInSteps source level settings

end C4Diagram
