import C4Diagram.Deflate.Token

/-!
The symbols of tokens. Symbols below 256 are bytes, 256 ends a block, and the ones above stand for
the length of a copy; distances have an alphabet of their own. A symbol of a length or distance
covers the values from its base on, and extra bits tell them apart.
-/

namespace C4Diagram.Deflate

/-- The values that one symbol covers: 2 ^ `extraBits` values from the base on. -/
structure Bucket where
  base : Nat
  extraBits : Nat
deriving DecidableEq

def endOfBlock : Nat := 256

/-- Lengths, the first bucket for symbol 257. -/
def lengthBuckets : List Bucket :=
  [⟨3, 0⟩, ⟨4, 0⟩, ⟨5, 0⟩, ⟨6, 0⟩, ⟨7, 0⟩, ⟨8, 0⟩, ⟨9, 0⟩, ⟨10, 0⟩,
    ⟨11, 1⟩, ⟨13, 1⟩, ⟨15, 1⟩, ⟨17, 1⟩, ⟨19, 2⟩, ⟨23, 2⟩, ⟨27, 2⟩, ⟨31, 2⟩,
    ⟨35, 3⟩, ⟨43, 3⟩, ⟨51, 3⟩, ⟨59, 3⟩, ⟨67, 4⟩, ⟨83, 4⟩, ⟨99, 4⟩, ⟨115, 4⟩,
    ⟨131, 5⟩, ⟨163, 5⟩, ⟨195, 5⟩, ⟨227, 5⟩, ⟨258, 0⟩]

def distanceBuckets : List Bucket :=
  [⟨1, 0⟩, ⟨2, 0⟩, ⟨3, 0⟩, ⟨4, 0⟩, ⟨5, 1⟩, ⟨7, 1⟩, ⟨9, 2⟩, ⟨13, 2⟩,
    ⟨17, 3⟩, ⟨25, 3⟩, ⟨33, 4⟩, ⟨49, 4⟩, ⟨65, 5⟩, ⟨97, 5⟩, ⟨129, 6⟩, ⟨193, 6⟩,
    ⟨257, 7⟩, ⟨385, 7⟩, ⟨513, 8⟩, ⟨769, 8⟩, ⟨1025, 9⟩, ⟨1537, 9⟩, ⟨2049, 10⟩, ⟨3073, 10⟩,
    ⟨4097, 11⟩, ⟨6145, 11⟩, ⟨8193, 12⟩, ⟨12289, 12⟩, ⟨16385, 13⟩, ⟨24577, 13⟩]

/-- The place of the last bucket whose base is no larger than the value, and that bucket. -/
def bucketOf (buckets : List Bucket) (value : Nat) : Nat × Bucket :=
  let place := (buckets.takeWhile (·.base ≤ value)).length - 1
  (place, buckets.getD place ⟨0, 0⟩)

/-- The symbols of the alphabet of bytes and lengths, and of that of distances, less those that
never stand for anything. -/
def literalSymbols : Nat := 286

def distanceSymbols : Nat := 30

def maxCodeLength : Nat := 15

def maxHeaderCodeLength : Nat := 7

def maxCopyLength : Nat := 258

def windowSize : Nat := 32768

theorem length_lengthBuckets : lengthBuckets.length = 29 := rfl

theorem length_distanceBuckets : distanceBuckets.length = distanceSymbols := rfl

end C4Diagram.Deflate
