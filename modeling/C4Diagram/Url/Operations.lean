import C4Diagram.Url.Read

/-!
What rendering asks of addresses, whatever they are made of: an address is read from a text, it tells
whether its path is opaque and whether it takes segments, and segments are taken from the end of its
path and put there.
-/

namespace C4Diagram

structure UrlOperations (α : Type) where
  read : Text → Except Url.UrlError α
  parts : α → Url
  isOpaque : α → Bool
  takesSegments : α → Bool
  /-- Without the empty segment that the path may end in. -/
  popIfEmpty : α → α
  push : α → Text → α

namespace UrlOperations

/-- Two segments go behind the path, less the slash that it ends in. -/
def extend {α : Type} (urls : UrlOperations α) (u : α) (first second : Text) : α :=
  urls.push (urls.push (urls.popIfEmpty u) first) second

end UrlOperations

def Url.operations : UrlOperations Url where
  read := Url.read
  parts := id
  isOpaque := Url.isOpaque
  takesSegments u := u.segments?.isSome
  popIfEmpty := Url.popIfEmpty
  push := Url.push

end C4Diagram
