/-!
Bit strings. Bytes hold their bits from the lowest up, numbers are written the same way, and code
words from the highest bit down. A bit string that ends inside a byte is filled with zeros.
-/

namespace C4Diagram.Deflate

abbrev Bits := List Bool

/-- The lowest `count` bits of a number, from the lowest up. -/
def bitsLow : (count value : Nat) → Bits
  | 0, _ => []
  | n + 1, v => (v % 2 == 1) :: bitsLow n (v / 2)

def ofBitsLow : Bits → Nat
  | [] => 0
  | b :: bs => b.toNat + 2 * ofBitsLow bs

/-- The lowest `count` bits of a number, from the highest down. -/
def bitsHigh (count value : Nat) : Bits := (bitsLow count value).reverse

def bitsOfBytes (bytes : List UInt8) : Bits := bytes.flatMap fun b => bitsLow 8 b.toNat

/-- The bytes of a bit string, its last byte filled with zeros. -/
def bytesOfBits : Bits → List UInt8
  | a :: b :: c :: d :: e :: f :: g :: h :: rest =>
    UInt8.ofNat (ofBitsLow [a, b, c, d, e, f, g, h]) :: bytesOfBits rest
  | [] => []
  | short => [UInt8.ofNat (ofBitsLow short)]

theorem length_bitsLow (n v : Nat) : (bitsLow n v).length = n := by
  induction n generalizing v with
  | zero => rfl
  | succ n ih => simp [bitsLow, ih]

theorem ofBitsLow_bitsLow {n v : Nat} (h : v < 1 <<< n) : ofBitsLow (bitsLow n v) = v := by
  induction n generalizing v with
  | zero => simp at h; simp [bitsLow, ofBitsLow, h]
  | succ n ih =>
    rw [Nat.shiftLeft_succ] at h
    rw [bitsLow, ofBitsLow, ih (by omega)]
    rcases Nat.mod_two_eq_zero_or_one v with hv | hv <;> simp [hv] <;> omega

theorem length_bitsOfBytes (bytes : List UInt8) : (bitsOfBytes bytes).length = 8 * bytes.length := by
  induction bytes with
  | nil => rfl
  | cons b bs ih => simp only [bitsOfBytes, List.flatMap_cons, List.length_append, length_bitsLow,
      List.length_cons] at ih ⊢; omega

end C4Diagram.Deflate
