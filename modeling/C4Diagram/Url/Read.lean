import C4Diagram.Url.Basic

/-!
Reading addresses. Blanks and controls around the text do not count, nor do breaks inside it: tabs
and line ends. The scheme decides how the rest is cut: a special scheme always has a host and a path
of segments, any other one may have neither.
-/

namespace C4Diagram.Url

def isControlOrSpace (c : Char) : Bool := c.toNat ≤ 0x20

/-- Does not count inside an address, but for what `splitDriveLetter?` says. -/
def isBreak (c : Char) : Bool := c == '\t' || c == '\n' || c == '\r'

def withoutBreaks (t : Text) : Text := t.filter (!isBreak ·)

def next? (t : Text) : Option (Char × Text) :=
  match t.dropWhile isBreak with
  | c :: r => some (c, r)
  | [] => none

def isSchemeChar (c : Char) : Bool := c.isAlphanum || c == '+' || c == '-' || c == '.'

def scheme? (t : Text) : Option Text :=
  if t.head?.any Char.isAlpha && (t.dropWhile isSchemeChar).head? = some ':' then
    some (Text.lowered (t.takeWhile isSchemeChar))
  else none

/-- Separates the path; a backslash does so only in special schemes. -/
def isSlash (isSpecial : Bool) (c : Char) : Bool := c == '/' || (isSpecial && c == '\\')

def endsAuthority (isSpecial : Bool) (c : Char) : Bool := isSlash isSpecial c || c == '?' || c == '#'

def splitLastAt? (t : Text) : Option (Text × Text) :=
  if t.contains '@' then
    let after := (t.reverse.takeWhile (· ≠ '@')).reverse
    some (t.take (t.length - after.length - 1), after)
  else none

/-- The user's name up to the first colon, and the password after it unless it is empty. -/
def readUserinfo (t : Text) : Text × Option Text :=
  let name := encode userinfoSet (t.takeWhile (· ≠ ':'))
  match t.dropWhile (· ≠ ':') with
  | _ :: c :: r => (name, some (encode userinfoSet (c :: r)))
  | _ => (name, none)

/-- How much of the text is the host: up to a colon outside brackets. -/
def hostLength (inBrackets : Bool) : Text → Nat
  | [] => 0
  | c :: r =>
    if c = ':' ∧ inBrackets = false then 0
    else hostLength (if c = '[' then true else if c = ']' then false else inBrackets) r + 1

/-- The number of a port. No digits and the scheme's own port mean no port. -/
def readPort (type : SchemeType) (digits : Text) : Except UrlError (Option Nat) :=
  match digits? 10 digits with
  | none => .error .invalidPort
  | some port =>
    if 65535 < port then .error .invalidPort
    else if digits.isEmpty || type == .special port then .ok none
    else .ok (some port)

/-- The authority, from what follows its two slashes, and what follows it. `isWhole` tells that
neither a query nor a fragment follows the text. -/
def readAuthority (type : SchemeType) (t : Text) (isWhole : Bool) : Except UrlError (Authority × Text) := do
  let whole := t.takeWhile fun c => !endsAuthority type.isSpecial c
  let behind := t.drop whole.length
  let (userinfo, hostPort) := (splitLastAt? whole).getD ([], whole)
  let isEnd := behind.isEmpty && isWhole
  if userinfo.isEmpty && whole.contains '@' && hostPort.isEmpty && !isEnd then throw .emptyHost
  let (username, password) := readUserinfo userinfo
  let size := hostLength false hostPort
  let hostText := hostPort.take size
  if hostText.isEmpty && type.isSpecial then throw .emptyHost
  let host ← if type.isSpecial then Host.readSpecial hostText else Host.readOpaque hostText
  let afterHost := hostPort.drop size
  if host = .empty && !afterHost.isEmpty then throw .emptyHost
  let digits := (afterHost.drop 1).takeWhile Char.isDigit
  let afterDigits := (afterHost.drop 1).dropWhile Char.isDigit
  -- a backslash ends the port in every scheme
  if !afterDigits.isEmpty && afterDigits.head? ≠ some '\\' then throw .invalidPort
  let port ← readPort type digits
  let authority : Authority := ⟨username, password, host, port⟩
  if host = .empty && authority.hasUserinfo then throw .emptyHost
  return (authority, afterDigits ++ behind)

def isSingleDot (segment : Text) : Bool := [".".toList, "%2e".toList].contains segment.lowered

def isDoubleDot (segment : Text) : Bool :=
  ["..".toList, ".%2e".toList, "%2e.".toList, "%2e%2e".toList].contains segment.lowered

def isDriveLetter (segment : Text) : Bool :=
  match segment with
  | [letter, mark] => letter.isAlpha && (mark == ':' || mark == '|')
  | _ => false

/-- A drive letter with its colon, and what breaks keep apart from it in the same segment. -/
def splitDriveLetter? (segment : Text) : Option (Text × Text) := do
  let (letter, r) ← next? segment
  let (mark, r) ← next? r
  let rest := withoutBreaks r
  if letter.isAlpha && mark == ':' && r.head?.any isBreak && !rest.isEmpty then some ([letter, mark], rest)
  else none

/-- Without the last segment; two dots do not leave a drive letter. -/
def parentSegments (segments : List Text) : List Text :=
  if segments.getLast?.any isDriveLetter then segments else segments.dropLast

/-- A segment as it is kept: percent-encoded, a leading drive letter of a file with a colon. -/
def keptSegment (type : SchemeType) (segments : List Text) (segment : Text) : Text :=
  match segment with
  | [letter, _] =>
    if type = .file ∧ segments = [] ∧ isDriveLetter segment then [letter, ':'] else encode pathSet segment
  | _ => encode pathSet segment

/-- The path with one more written segment. A dot stays, two dots go up; at the end of the path both
leave an empty segment. What stands apart from the drive letter that a file's path starts with is a
segment in which dots mean nothing. -/
def addSegment (type : SchemeType) (segments : List Text) (segment : Text) (isLast : Bool) : List Text :=
  match if type = .file ∧ segments = [] then splitDriveLetter? segment else none with
  | some (drive, rest) => [drive, encode pathSet rest]
  | none =>
    let s := withoutBreaks segment
    if isDoubleDot s then parentSegments segments ++ if isLast then [[]] else []
    else if isSingleDot s then segments ++ if isLast then [[]] else []
    else segments ++ [keptSegment type segments s]

def addSegments (type : SchemeType) (segments : List Text) : List Text → List Text
  | [] => segments
  | s :: rest => addSegments type (addSegment type segments s rest.isEmpty) rest

def addsDriveLetter (segments : List Text) : List Text → Bool
  | [] => false
  | s :: rest =>
    (segments.isEmpty && isDriveLetter (withoutBreaks s)) ||
      addsDriveLetter (addSegment .file segments s rest.isEmpty) rest

def segmentTexts (isSpecial : Bool) (t : Text) : List Text :=
  Text.pieces '/' (if isSpecial then t.map fun c => if c = '\\' then '/' else c else t)

def leadingSegmentTexts (isSpecial : Bool) (t : Text) : List Text :=
  segmentTexts isSpecial <|
    match next? t with
    | some (c, r) => if isSlash isSpecial c then r else t
    | none => t

/-- The path behind an authority. Only special schemes need a path. -/
def readPath (type : SchemeType) (t : Text) : List Text :=
  if t.isEmpty && !type.isSpecial then [] else addSegments type [] (leadingSegmentTexts type.isSpecial t)

/-- A file's path has no empty segments in front. -/
def filePath (segments : List Text) : List Text :=
  match segments.dropWhile List.isEmpty with
  | [] => [[]]
  | kept => kept

def behindSlashes? (t : Text) : Option Text := do
  let (a, r) ← next? t
  let (b, r) ← next? r
  if isSlash true a && isSlash true b then some r else none

/-- The host and the path of a file, from what follows the scheme, breaks and all. A drive letter is no
host, and one in front of the path takes the place of a host. Without a host the slash behind its
place is a segment of its own, so that a drive letter behind it is not the first one. -/
def readFile (t : Text) : Except UrlError (Host × List Text) :=
  match behindSlashes? t with
  | none => .ok (.empty, filePath (readPath .file t))
  | some r => do
    let hostPart := r.takeWhile fun c => !isSlash true c
    let hostText := withoutBreaks hostPart
    let hostless (path : Text) := (Host.empty, filePath (addSegments .file [] (segmentTexts true path)))
    if isDriveLetter hostText then return hostless r
    let behind := r.drop hostPart.length
    if hostText.isEmpty then return hostless behind
    let host ← Host.readSpecial hostText
    if host = .name "localhost".toList then return hostless behind
    let takesPlace := addsDriveLetter [] (leadingSegmentTexts true behind)
    return (if takesPlace then .empty else host, filePath (readPath .file behind))

def splitTail (t : Text) : Text × Option Text × Option Text :=
  let body := t.takeWhile (· ≠ '#')
  let fragment := match t.dropWhile (· ≠ '#') with
    | _ :: r => some r
    | [] => none
  let query := match body.dropWhile (· ≠ '?') with
    | _ :: r => some r
    | [] => none
  (body.takeWhile (· ≠ '?'), query, fragment)

/-- The authority and path of an address that is no file, from what follows the scheme and stands
before query and fragment. `isWhole` tells that neither of these follows. -/
def readBody (type : SchemeType) (t : Text) (isWhole : Bool) : Except UrlError (Option Authority × Path) :=
  let behindSlashes (r : Text) : Except UrlError (Option Authority × Path) := do
    let (authority, rest) ← readAuthority type r isWhole
    return (some authority, .segments (readPath type rest))
  if type.isSpecial then behindSlashes (t.dropWhile (isSlash true))
  else
    match t with
    | '/' :: '/' :: r => behindSlashes r
    | '/' :: r => .ok (none, .segments (addSegments type [] (segmentTexts false r)))
    | _ => .ok (none, .opaqueText (encode isControl t))

def read (t : Text) : Except UrlError Url := do
  let whole := Text.dropEndWhile isControlOrSpace (t.dropWhile isControlOrSpace)
  match scheme? (withoutBreaks whole) with
  | none => throw .noScheme
  | some scheme =>
    let type := SchemeType.ofScheme scheme
    let (body, query, fragment) := splitTail ((whole.dropWhile (· ≠ ':')).drop 1)
    let (authority, path) ←
      if type = .file then
        (readFile body).map fun (host, segments) => (some ⟨[], none, host, none⟩, .segments segments)
      else readBody type (withoutBreaks body) (query.isNone && fragment.isNone)
    let querySet := if type.isSpecial then specialQuerySet else querySet
    let kept (set : EncodeSet) (part : Text) := encode set (withoutBreaks part)
    return ⟨scheme, authority, path, query.map (kept querySet), fragment.map (kept fragmentSet)⟩

end C4Diagram.Url
