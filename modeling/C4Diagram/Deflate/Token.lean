/-!
Tokens of compressed data: a byte as it is, or a copy of bytes that came before. Expanding tokens
gives the data; a copy that reaches back before the start reads zeros there.
-/

namespace C4Diagram.Deflate

inductive Token where
  | literal (byte : UInt8)
  | copy (length distance : Nat)
deriving DecidableEq

/-- The byte `distance` places before the end, or 0 before the start. -/
def byteBack (output : Array UInt8) (distance : Nat) : UInt8 :=
  if distance ≤ output.size then output.getD (output.size - distance) 0 else 0

/-- Appends bytes one by one, each of them the byte `distance` places before it. -/
def copyBack (distance : Nat) : (length : Nat) → Array UInt8 → Array UInt8
  | 0, output => output
  | n + 1, output => copyBack distance n (output.push (byteBack output distance))

namespace Token

def append (output : Array UInt8) : Token → Array UInt8
  | literal byte => output.push byte
  | copy length distance => copyBack distance length output

end Token

def expand (tokens : List Token) : Array UInt8 := tokens.foldl Token.append #[]

theorem size_copyBack (distance length : Nat) (output : Array UInt8) :
    (copyBack distance length output).size = output.size + length := by
  induction length generalizing output with
  | zero => rfl
  | succ n ih => rw [copyBack, ih, Array.size_push]; omega

theorem expand_append (xs ys : List Token) : expand (xs ++ ys) = ys.foldl Token.append (expand xs) := by
  simp [expand]

end C4Diagram.Deflate
