import C4Diagram.Deflate.Bits

/-!
Canonical prefix codes. The lengths of the code words fix the words: shorter words come first, words
of one length follow the order of their symbols, and each is the next number of its length. A symbol
of length 0 has no word.
-/

namespace C4Diagram.Deflate

def wordsOf (lengths : List Nat) (length : Nat) : Nat := if length = 0 then 0 else lengths.count length

def firstWord (lengths : List Nat) : (length : Nat) → Nat
  | 0 => 0
  | n + 1 => 2 * (firstWord lengths n + wordsOf lengths n)

/-- The words by symbol; a symbol without a word has the empty one. -/
abbrev PrefixCode := Array Bits

/-- The words of symbols with the given lengths, where `next` holds the next number of each length. -/
def assignWords (next : Nat → Nat) : (lengths : List Nat) → List Bits
  | [] => []
  | l :: ls =>
    if l = 0 then [] :: assignWords next ls
    else bitsHigh l (next l) :: assignWords (fun n => if n = l then next l + 1 else next n) ls

namespace PrefixCode

def ofLengths (lengths : List Nat) : PrefixCode :=
  let first := (List.range 16).map (firstWord lengths)
  (assignWords (first.getD · 0) lengths).toArray

def word (code : PrefixCode) (symbol : Nat) : Bits := code.getD symbol []

def symbol? (code : PrefixCode) (bits : Bits) : Option Nat :=
  code.findIdx? fun w => !w.isEmpty && w.isPrefixOf bits

end PrefixCode

/-- The part of all bit strings of length `limit` that start with a word. -/
def coverage (limit : Nat) (lengths : List Nat) : Nat :=
  (lengths.filter (0 < ·)).foldr (fun l n => 1 <<< (limit - l) + n) 0

/-- Every long enough bit string starts with exactly one word. -/
def isComplete (limit : Nat) (lengths : List Nat) : Bool := coverage limit lengths == 1 <<< limit

/-- Complete, or so small that no bit string has to be read with it: no word, or one word of one
bit. -/
def isUsable (limit : Nat) (lengths : List Nat) : Bool :=
  isComplete limit lengths || (lengths.filter (0 < ·)).length == 0 || lengths.filter (0 < ·) == [1]

end C4Diagram.Deflate
