import C4Diagram.Deflate.Compress

/-!
Reading compressed data. The blocks are read into tokens up to the final one, whatever stands behind
it, and the tokens are expanded. Two things can go wrong: the input ends early, or it breaks a rule.
-/

namespace C4Diagram.Deflate

inductive InflateError where
  | endOfInput
  | corrupt
deriving DecidableEq

/-- Reads from the front of a bit string and leaves the rest. -/
abbrev Reader := StateT Bits (Except InflateError)

namespace Reader

def fail {α : Type} (e : InflateError) : Reader α := throw e

def require (condition : Bool) : Reader Unit := if condition then pure () else fail .corrupt

def bit : Reader Bool
  | [] => .error .endOfInput
  | b :: bits => .ok (b, bits)

def number : (count : Nat) → Reader Nat
  | 0 => pure 0
  | n + 1 => do
    let low ← bit
    let high ← number n
    pure (low.toNat + 2 * high)

/-- The next symbol of a code. Where no word fits, the input ends early if what is left of it is
the start of a word, and is corrupt otherwise. -/
def symbol (code : PrefixCode) : Reader Nat := fun bits =>
  match code.symbol? bits with
  | some s => .ok (s, bits.drop (code.word s).length)
  | none => .error (if code.any fun w => bits.isPrefixOf w then .endOfInput else .corrupt)

def numbers (bitsEach : Nat) : (count : Nat) → Reader (List Nat)
  | 0 => pure []
  | n + 1 => do
    let first ← number bitsEach
    let rest ← numbers bitsEach n
    pure (first :: rest)

def bucketValue (b : Bucket) : Reader Nat := do
  let extra ← number b.extraBits
  pure (b.base + extra)

/-- The value of the bucket at a place; a place without a bucket is corrupt. -/
def bucketAt (buckets : List Bucket) (place : Nat) : Reader Nat :=
  match buckets[place]? with
  | some b => bucketValue b
  | none => fail .corrupt

/-- The tokens of a block up to its end, in at most `limit` steps. Those read so far stand in
reverse. -/
def blockTokens (literals distances : PrefixCode) : (limit : Nat) → (read : List Token) → Reader (List Token)
  | 0, _ => fail .endOfInput
  | n + 1, read => do
    let s ← symbol literals
    if s < endOfBlock then blockTokens literals distances n (.literal (UInt8.ofNat s) :: read)
    else if s = endOfBlock then pure read.reverse
    else
      let length ← bucketAt lengthBuckets (s - 257)
      let distance ← bucketAt distanceBuckets (← symbol distances)
      blockTokens literals distances n (.copy length distance :: read)

/-- The code lengths in their short form, until there are `total` of them, in at most `limit` steps.
Those read so far stand in reverse. -/
def lengthsInRuns (code : PrefixCode) (total : Nat) : (limit : Nat) → (read : List Nat) → Reader (List Nat)
  | 0, _ => fail .endOfInput
  | n + 1, read => do
    if total ≤ read.length then
      require (read.length == total)
      pure read.reverse
    else
      let s ← symbol code
      if s < 16 then lengthsInRuns code total n (s :: read)
      else if s = 16 then
        match read with
        | [] => fail .corrupt
        | last :: _ =>
          let count ← number 2
          lengthsInRuns code total n (List.replicate (count + 3) last ++ read)
      else if s = 17 then
        let count ← number 3
        lengthsInRuns code total n (List.replicate (count + 3) 0 ++ read)
      else
        let count ← number 7
        lengthsInRuns code total n (List.replicate (count + 11) 0 ++ read)

/-- Puts the lengths that a block states first into the order of the symbols. -/
def inSymbolOrder (stated : List Nat) : List Nat :=
  (List.range 19).map fun symbol => ((headerOrder.zip stated).lookup symbol).getD 0

def codeHeaderLengths : Reader (List Nat × List Nat) := do
  let literalCount := (← number 5) + 257
  let distanceCount := (← number 5) + 1
  let statedCount := (← number 4) + 4
  require (decide (literalCount ≤ literalSymbols) && decide (distanceCount ≤ distanceSymbols))
  let headerLengths := inSymbolOrder (← numbers 3 statedCount)
  require (isComplete maxHeaderCodeLength headerLengths)
  let total := literalCount + distanceCount
  let lengths ← lengthsInRuns (.ofLengths headerLengths) total (total + 1) []
  let literals := lengths.take literalCount
  let distances := lengths.drop literalCount
  require (isUsable maxCodeLength literals && isUsable maxCodeLength distances)
  pure (literals, distances)

/-- Drops the bits up to the next byte, given how many bits the whole input has. -/
def alignToByte (inputLength : Nat) : Reader Unit := fun bits =>
  .ok ((), bits.drop ((8 - (inputLength - bits.length) % 8) % 8))

def storedTokens (inputLength : Nat) : Reader (List Token) := do
  alignToByte inputLength
  let size ← number 16
  let complement ← number 16
  require (size + complement == maxStored)
  let bytes ← numbers 8 size
  pure (bytes.map fun b => .literal (UInt8.ofNat b))

/-- The tokens of one block, and whether it is the final one. Each token takes a bit at least. -/
def block (inputLength : Nat) : Reader (Bool × List Token) := do
  let isFinal ← number 1
  let type ← number 2
  let limit := (← get).length + 1
  let tokens ← match type with
    | 0 => storedTokens inputLength
    | 1 => blockTokens (.ofLengths fixedLiteralLengths) (.ofLengths fixedDistanceLengths) limit []
    | 2 => do
      let (literals, distances) ← codeHeaderLengths
      blockTokens (.ofLengths literals) (.ofLengths distances) limit []
    | _ => fail .corrupt
  pure (isFinal == 1, tokens)

def blocks (inputLength : Nat) : (limit : Nat) → Reader (List Token)
  | 0 => fail .endOfInput
  | n + 1 => do
    let (isFinal, tokens) ← block inputLength
    if isFinal then pure tokens
    else
      let rest ← blocks inputLength n
      pure (tokens ++ rest)

end Reader

/-- The tokens of compressed data. Each block takes a bit at least. -/
def tokensOf (bits : Bits) : Except InflateError (List Token) :=
  (Reader.blocks bits.length (bits.length + 1)).run' bits

def inflate (bytes : List UInt8) : Except InflateError (List UInt8) :=
  (tokensOf (bitsOfBytes bytes)).map fun tokens => (expand tokens).toList

end C4Diagram.Deflate
