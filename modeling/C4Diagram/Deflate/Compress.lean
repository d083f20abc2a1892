import C4Diagram.Deflate.CodeLengths
import C4Diagram.Deflate.PrefixCode
import C4Diagram.Deflate.Tokenize

/-!
Writing compressed data as one block: with fixed codes when the data is short, with codes of its own
otherwise, and as it is when that is no longer. Code lengths are written in a short form of their
own, in which repeats are counted.
-/

namespace C4Diagram.Deflate

def fixedLiteralLengths : List Nat :=
  List.replicate 144 8 ++ List.replicate 112 9 ++ List.replicate 24 7 ++ List.replicate 8 8

def fixedDistanceLengths : List Nat := List.replicate 32 5

def bucketBits (buckets : List Bucket) (value : Nat) : Nat × Bits :=
  let (place, bucket) := bucketOf buckets value
  (place, bitsLow bucket.extraBits (value - bucket.base))

def Token.symbol : Token → Nat
  | .literal byte => byte.toNat
  | .copy length _ => 257 + (bucketOf lengthBuckets length).1

def Token.distanceSymbol? : Token → Option Nat
  | .literal _ => none
  | .copy _ distance => some (bucketOf distanceBuckets distance).1

def Token.bits (literals distances : PrefixCode) : Token → Bits
  | .literal byte => literals.word byte.toNat
  | .copy length distance =>
    let (lengthPlace, lengthBits) := bucketBits lengthBuckets length
    let (distancePlace, distanceBits) := bucketBits distanceBuckets distance
    literals.word (257 + lengthPlace) ++ lengthBits ++ distances.word distancePlace ++ distanceBits

def blockBody (literals distances : PrefixCode) (tokens : List Token) : Bits :=
  tokens.flatMap (Token.bits literals distances) ++ literals.word endOfBlock

def symbolCounts (size : Nat) (symbols : List Nat) : List Nat :=
  (symbols.foldl (fun counts s => counts.modify s (· + 1)) (Array.replicate size 0)).toList

/-- A symbol of the short form of code lengths, with its extra bits. -/
structure RunSymbol where
  symbol : Nat
  extra : Bits
deriving DecidableEq

/-- A run of zeros: each by itself up to two, then counted in one of two ranges. -/
def zeroRun (count : Nat) : List RunSymbol :=
  if count < 3 then List.replicate count ⟨0, []⟩
  else if count ≤ 10 then [⟨17, bitsLow 3 (count - 3)⟩]
  else [⟨18, bitsLow 7 (count - 11)⟩]

/-- A run of repeats of the length before it: each by itself up to two, then counted. -/
def repeatRun (length count : Nat) : List RunSymbol :=
  if count < 3 then List.replicate count ⟨length, []⟩ else [⟨16, bitsLow 2 (count - 3)⟩]

def maxZeroRun : Nat := 138

def maxRepeatRun : Nat := 6

/-- The short form of code lengths, where `zeros` zeros or `repeats` repeats of the previous length
have not been written yet. -/
def runSymbols (previous : Option Nat) (zeros repeats : Nat) : List Nat → List RunSymbol
  | [] => if 0 < repeats then repeatRun (previous.getD 0) repeats else zeroRun zeros
  | l :: ls =>
    if l = 0 then
      repeatRun (previous.getD 0) repeats ++
        if zeros + 1 = maxZeroRun then zeroRun maxZeroRun ++ runSymbols (some 0) 0 0 ls
        else runSymbols (some 0) (zeros + 1) 0 ls
    else
      zeroRun zeros ++
        if previous = some l then
          if repeats + 1 = maxRepeatRun then repeatRun l maxRepeatRun ++ runSymbols (some l) 0 0 ls
          else runSymbols (some l) 0 (repeats + 1) ls
        else repeatRun (previous.getD 0) repeats ++ ⟨l, []⟩ :: runSymbols (some l) 0 0 ls

/-- The lengths up to the last one that is not 0, but at least `atLeast` of them. -/
def trimmedLengths (atLeast : Nat) (lengths : List Nat) : List Nat :=
  let size := (lengths.reverse.dropWhile (· == 0)).length
  lengths.take (max size atLeast)

/-- The order in which a block states the code lengths of its code lengths. -/
def headerOrder : List Nat := [16, 17, 18, 0, 8, 7, 9, 6, 10, 5, 11, 4, 12, 3, 13, 2, 14, 1, 15]

/-- The codes of a block of its own: how many code lengths there are, the code in which they are
written, and the lengths themselves. -/
def codeHeader (literalLengths distanceLengths : List Nat) : Bits :=
  let literals := trimmedLengths 257 literalLengths
  let distances := trimmedLengths 1 distanceLengths
  let runs := runSymbols none 0 0 (literals ++ distances)
  let runLengths := codeLengths maxHeaderCodeLength (symbolCounts 19 (runs.map RunSymbol.symbol))
  let ordered := trimmedLengths 4 (headerOrder.map (runLengths.getD · 0))
  let code := PrefixCode.ofLengths runLengths
  bitsLow 5 (literals.length - 257) ++ bitsLow 5 (distances.length - 1) ++
    bitsLow 4 (ordered.length - 4) ++ ordered.flatMap (bitsLow 3) ++
    runs.flatMap fun r => code.word r.symbol ++ r.extra

def fixedBlock (tokens : List Token) : Bits :=
  bitsLow 1 1 ++ bitsLow 2 1 ++
    blockBody (.ofLengths fixedLiteralLengths) (.ofLengths fixedDistanceLengths) tokens

def ownBlock (tokens : List Token) : Bits :=
  let literalLengths :=
    codeLengths maxCodeLength (symbolCounts 288 (endOfBlock :: tokens.map Token.symbol))
  let distanceLengths :=
    codeLengths maxCodeLength (symbolCounts 32 (tokens.filterMap Token.distanceSymbol?))
  bitsLow 1 1 ++ bitsLow 2 2 ++
    codeHeader (literalLengths.take literalSymbols) (distanceLengths.take distanceSymbols) ++
    blockBody (.ofLengths literalLengths) (.ofLengths distanceLengths) tokens

def maxStored : Nat := 65535

/-- The bytes as they are, in as many blocks as they need. A block starts at a byte, with its size
and the complement of its size. -/
def storedBlocks (blocks : Nat) (data : List UInt8) : List UInt8 :=
  match blocks with
  | 0 => []
  | n + 1 =>
    let now := data.take maxStored
    let later := data.drop maxStored
    let size := now.length
    let rest := maxStored - size
    [if later.isEmpty then 1 else 0, UInt8.ofNat (size % 256), UInt8.ofNat (size / 256),
      UInt8.ofNat (rest % 256), UInt8.ofNat (rest / 256)] ++ now ++
      if later.isEmpty then [] else storedBlocks n later

/-- Data of this size and more is written with codes of its own. -/
def shortData : Nat := 48

/-- Data up to this size is never stored as it is. -/
def tinyData : Nat := 32

def compress (data : List UInt8) : List UInt8 :=
  let size := data.length
  let tokens := tokenize data.toArray
  let block := if size < shortData then fixedBlock tokens else ownBlock tokens
  if tinyData < size ∧ size ≤ block.length / 8 + 1 then storedBlocks (size / maxStored + 1) data
  else bytesOfBits block

end C4Diagram.Deflate
