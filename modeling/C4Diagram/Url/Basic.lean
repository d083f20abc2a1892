import C4Diagram.Url.Host

/-!
Addresses in their parts, and their written form. The path of an address is opaque or a list of
segments; only the latter can take more segments, which is what a rendering server's address needs.
-/

namespace C4Diagram.Url

/-- Schemes with a host and a default port, the one without a host, and all others. -/
inductive SchemeType where
  | file
  | special (defaultPort : Nat)
  | other
deriving DecidableEq

namespace SchemeType

def ofScheme (scheme : Text) : SchemeType :=
  if scheme = "file".toList then file
  else if scheme = "http".toList ∨ scheme = "ws".toList then special 80
  else if scheme = "https".toList ∨ scheme = "wss".toList then special 443
  else if scheme = "ftp".toList then special 21
  else other

def isSpecial : SchemeType → Bool
  | other => false
  | _ => true

end SchemeType

/-- Who asks and where. The user's name and password are percent-encoded. -/
structure Authority where
  username : Text
  password : Option Text
  host : Host
  port : Option Nat
deriving DecidableEq

inductive Path where
  | opaqueText (t : Text)
  /-- The texts behind each slash, percent-encoded. -/
  | segments (s : List Text)
deriving DecidableEq

end C4Diagram.Url

namespace C4Diagram

structure Url where
  scheme : Text
  authority : Option Url.Authority
  path : Url.Path
  query : Option Text
  fragment : Option Text
deriving DecidableEq

namespace Url

namespace Authority

def hasUserinfo (a : Authority) : Bool := !a.username.isEmpty || a.password.isSome

def written (a : Authority) : Text :=
  let userinfo :=
    if a.hasUserinfo then a.username ++ ((a.password.map (':' :: ·)).getD []) ++ ['@'] else []
  userinfo ++ a.host.written ++ (a.port.map fun p => ':' :: Text.ofNat p).getD []

end Authority

namespace Path

def written : Path → Text
  | opaqueText t => t
  | segments s => s.flatMap ('/' :: ·)

end Path

/-- The address as a text. A path that starts with two slashes is kept apart from a host. -/
def written (u : Url) : Text :=
  let authority := match u.authority with
    | some a => "//".toList ++ a.written
    | none => if "//".toList.isPrefixOf u.path.written then "/.".toList else []
  u.scheme ++ ':' :: authority ++ u.path.written ++ ((u.query.map ('?' :: ·)).getD []) ++
    (u.fragment.map ('#' :: ·)).getD []

def isOpaque (u : Url) : Bool :=
  match u.path with
  | .opaqueText _ => true
  | .segments _ => false

def segments? (u : Url) : Option (List Text) :=
  match u.path with
  | .segments s => some s
  | .opaqueText _ => none

def mapSegments (f : List Text → List Text) (u : Url) : Url :=
  match u.path with
  | .segments s => { u with path := .segments (f s) }
  | .opaqueText _ => u

/-- Without one empty last segment, unless it is the only one. -/
def withoutTrailingSlash (segments : List Text) : List Text :=
  if 1 < segments.length ∧ segments.getLast? = some [] then segments.dropLast else segments

/-- With one segment more; a path that is only a slash is replaced. -/
def pushSegment (segments : List Text) (segment : Text) : List Text :=
  if segments = [[]] then [segment] else segments ++ [segment]

/-- The address without the slash that its path ends in. Without a host, a path of two slashes keeps
the dot that sets it apart from a host. -/
def popIfEmpty (u : Url) : Url :=
  u.mapSegments fun s =>
    if u.authority.isNone ∧ s = [[], []] then [['.']] else withoutTrailingSlash s

/-- The segment is added as it is, so it must not need encoding. -/
def push (u : Url) (segment : Text) : Url := u.mapSegments (pushSegment · segment)

end Url
end C4Diagram
