import C4Diagram.Text.Search
import C4Diagram.Url.Domain.Composition
import C4Diagram.Url.Domain.Direction
import C4Diagram.Url.Domain.Joining
import C4Diagram.Url.Domain.Mapping
import C4Diagram.Url.Punycode

/-!
Domains: labels between dots. A label of other than ASCII characters is written as its punycode
behind `xn--`, and a label that starts so has to be one.
-/

namespace C4Diagram.Domain

def isAscii (c : Char) : Bool := c.toNat < 128

/-- Not allowed in a domain, even when percent-encoded. -/
def isForbidden (c : Char) : Bool := c.toNat ≤ 0x20 || "%#/:<>?@[\\]^|\x7F".toList.contains c

def punycodeMark : Text := "xn--".toList

def longestForeign : Nat := 1000

def longestPunycode : Nat := 2000

/-- May have a punycode: a label with a character that is not ASCII and none that would be written as
another, which starts neither with a mark nor like a written label. -/
def isForeignLabel (label : Text) : Bool :=
  !label.all isAscii && label.length ≤ longestForeign && label.all (fun c => isAscii c || isKept c) &&
    composed label == label && !label.head?.any isMark && !punycodeMark.isPrefixOf label &&
    keepsJoiners [] label

def label? (t : Text) : Option Text :=
  match t.after? punycodeMark with
  | some code =>
    if t.all isAscii && code.length ≤ longestPunycode then (Punycode.decode? code).filter isForeignLabel
    else none
  | none => if t.all isAscii || isForeignLabel t then some t else none

def labels? (t : Text) : Option (List Text) := do
  let whole := composed (← t.mapM mapped?).flatten
  if whole.any isForbidden then none
  else
    let labels ← (Text.pieces '.' whole).mapM label?
    let countsDirections := labels.any fun l => l.any fun c => (Direction.ofChar c).isMirrored
    if countsDirections && !labels.all keepsDirection then none else some labels

def writtenLabel (label : Text) : Text :=
  if label.all isAscii then label else punycodeMark ++ Punycode.encode label

def written? (t : Text) : Option Text := (labels? t).map fun labels => Text.join ['.'] (labels.map writtenLabel)

end C4Diagram.Domain
