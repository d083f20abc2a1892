import C4Diagram.DiagramCode
import C4Diagram.Settings.Toml

/-!
What settings and rendering are built on: a reader of the format that settings are written in,
addresses, and a compression. Each can be taken for another one that keeps the same laws.
-/

namespace C4Diagram

structure Libraries (α : Type) where
  /-- The settings that a text holds, if it is of the right form. -/
  settings? : Text → Option Settings
  urls : UrlOperations α
  compression : Compression

def Libraries.own : Libraries Url where
  settings? t := (Toml.read? t).bind (SettingsValue.settings? .toml)
  urls := Url.operations
  compression := Deflate.compression

end C4Diagram
