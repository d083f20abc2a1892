import C4Diagram.Deflate.Matches

/-!
Cutting data into tokens. A copy is held back for one position: if a longer one starts there, the
byte in between goes out as it is. Long copies go out at once.
-/

namespace C4Diagram.Deflate

/-- From this length on a copy is not held back. -/
def longCopy : Nat := 128

/-- A copy of three bytes from this far back is longer than the bytes. -/
def farBack : Nat := 8192

namespace Chained

/-- The shortest copy has three bytes. A copy that costs more than its bytes is left out. -/
def worthwhile? (c : Chained) (position length : Nat) : Option Found :=
  (c.find? position length).filter fun f => !(f.length == 3 && decide (farBack ≤ f.distance))

/-- The tokens from the position on, in at most `steps` steps. `held` is a copy that starts one
position earlier and has not gone out yet. -/
def tokensFrom (c : Chained) : (steps position : Nat) → (held : Option Found) → List Token
  | 0, _, _ => []
  | steps + 1, position, held =>
    if c.data.size ≤ position then []
    else
      match held, c.worthwhile? position ((held.map Found.length).getD 2) with
      | none, none => .literal (c.byte position) :: c.tokensFrom steps (position + 1) none
      | none, some f =>
        if longCopy ≤ f.length then
          .copy f.length f.distance :: c.tokensFrom steps (position + f.length) none
        else c.tokensFrom steps (position + 1) (some f)
      | some h, none =>
        .copy h.length h.distance :: c.tokensFrom steps (position + (h.length - 1)) none
      | some _, some f =>
        .literal (c.byte (position - 1)) ::
          if longCopy ≤ f.length then
            .copy f.length f.distance :: c.tokensFrom steps (position + f.length) none
          else c.tokensFrom steps (position + 1) (some f)

end Chained

def tokenize (data : Array UInt8) : List Token := (Chained.ofData data).tokensFrom (data.size + 1) 0 none

end C4Diagram.Deflate
