import C4Diagram.Deflate.Symbols

/-!
Looking for earlier copies of what comes next. Positions with the same hash of three bytes form a
chain, from the latest to the earliest; a search walks the chain of a position for a bounded number
of rounds and keeps the longest copy. Which copies are found decides how short the output gets, and
nothing else: a found copy always repeats bytes of the data.
-/

namespace C4Diagram.Deflate

/-- The data with, for each position, the previous one of the same hash; 0 ends a chain, so the
first position is never found. -/
structure Chained where
  data : Array UInt8
  previous : Array Nat

def hashBits : Nat := 15

def hash3 (a b c : UInt8) : Nat :=
  (a.toNat <<< 10 ^^^ b.toNat <<< 5 ^^^ c.toNat) % (1 <<< hashBits)

namespace Chained

def byte (c : Chained) (position : Nat) : UInt8 := c.data.getD position 0

def link (data : Array UInt8) (state : Array Nat × Array Nat) (position : Nat) : Array Nat × Array Nat :=
  let hash := hash3 (data.getD position 0) (data.getD (position + 1) 0) (data.getD (position + 2) 0)
  (state.1.push (state.2.getD hash 0), state.2.setIfInBounds hash position)

/-- The last two positions have no three bytes and are in no chain. -/
def ofData (data : Array UInt8) : Chained :=
  ⟨data, ((List.range (data.size - 2)).foldl (link data) (#[], Array.replicate (1 <<< hashBits) 0)).1⟩

/-- How many bytes from `a` and from `b` on agree, at most `limit`. -/
def agreement (c : Chained) (a b : Nat) : (limit : Nat) → Nat
  | 0 => 0
  | n + 1 => if c.byte a = c.byte b then c.agreement (a + 1) (b + 1) n + 1 else 0

def pairAgrees (c : Chained) (a b : Nat) : Bool := c.byte a == c.byte b && c.byte (a + 1) == c.byte (b + 1)

structure Found where
  length : Nat
  distance : Nat
deriving DecidableEq

/-- One round of a search: at most `hops` steps down the chain, up to a position where the two bytes
agree that would make the copy longer. Ends the search at the end of the chain and at the edge of
the window. The result tells whether such a position was reached. -/
def round (c : Chained) (position length : Nat) : (hops probe : Nat) → Option (Nat × Bool)
  | 0, probe => some (probe, false)
  | n + 1, probe =>
    let next := c.previous.getD probe 0
    if next = 0 ∨ position ≤ next ∨ windowSize < position - next then none
    else if c.pairAgrees (next + length - 1) (position + length - 1) then some (next, true)
    else c.round position length n next

/-- The longest copy that the rounds find, if it is longer than `length`; a copy of `limit` bytes
ends the search. `best` is the copy found so far. -/
def search (c : Chained) (position limit : Nat) : (rounds probe length : Nat) → Option Found → Option Found
  | 0, _, _, best => best
  | n + 1, probe, length, best =>
    match c.round position length 3 probe with
    | none => best
    | some (next, false) => c.search position limit n next length best
    | some (next, true) =>
      if !c.pairAgrees next position then c.search position limit n next length best
      else
        let common := c.agreement next position maxCopyLength
        if common ≤ length then c.search position limit n next length best
        else
          let found : Found := ⟨min common limit, position - next⟩
          if limit ≤ found.length then some found
          else c.search position limit n next found.length (some found)

/-- A copy at the position that is longer than `length`. A search that starts from a long copy is
given fewer rounds. -/
def find? (c : Chained) (position length : Nat) : Option Found :=
  let limit := min maxCopyLength (c.data.size - position)
  if limit ≤ length then none
  else c.search position limit (if length < 32 then 256 else 64) position length none

end Chained
end C4Diagram.Deflate
