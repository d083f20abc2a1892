import C4Diagram.Text.Blank

/-!
Punycode: a text of any characters as letters, digits and hyphens. The characters that
are ASCII come first; a series of numbers then tells for each other character, from the least code
up, how far to go on through all pairs of a code and a place in the text.
-/

namespace C4Diagram.Punycode

/-- The letters a to z and then the digits. -/
def digitValue? (c : Char) : Option Nat :=
  if 'a' ≤ c ∧ c ≤ 'z' then some (c.toNat - 97)
  else if c.isDigit then some (c.toNat - 22)
  else none

def digit (n : Nat) : Char := if n < 26 then Char.ofNat (97 + n) else Char.ofNat (22 + n)

theorem digitValue?_digit {n : Nat} (h : n < 36) : digitValue? (digit n) = some n := by
  have all : ∀ d ∈ List.range 36, digitValue? (digit d) = some d := by decide
  exact all n (List.mem_range.mpr h)

/-- The least digit at a position after which the number goes on. Positions count in steps of 36. -/
def threshold (bias position : Nat) : Nat := min 26 (max 1 (position - bias))

theorem one_le_threshold (bias position : Nat) : 1 ≤ threshold bias position := by
  unfold threshold
  omega

/-- The bias that suits numbers of about the size `n`: 36 for each digit that they have on top of a
last one. -/
def biasFor (n passed : Nat) : Nat :=
  if 455 < n then biasFor (n / 35) (passed + 36) else passed + 36 * n / (n + 38)
termination_by n
decreasing_by omega

/-- The bias behind a number. The first number is larger than those that follow, and all of them get
smaller as the text grows to `size`. -/
def nextBias (number size : Nat) (isFirst : Bool) : Nat :=
  let n := if isFirst then number / 700 else number / 2
  biasFor (n + n / size) 0

def number? (bias : Nat) : (position weight : Nat) → Text → Option (Nat × Text)
  | _, _, [] => none
  | position, weight, c :: r =>
    (digitValue? c).bind fun d =>
      if d < threshold bias position then some (d * weight, r)
      else
        (number? bias (position + 36) (weight * (36 - threshold bias position)) r).map fun (n, rest) =>
          (d * weight + n, rest)

/-- Inserts a character for each number, in at most `limit` steps. The next one has the given code
or a greater one, and with this code it stands at the given place or behind it. -/
def insertAll? : (limit code place bias : Nat) → (decoded : Text) → Text → Option Text
  | 0, _, _, _, _, _ => none
  | n + 1, code, place, bias, decoded, t =>
    if t.isEmpty then some decoded
    else
      (number? bias 36 1 t).bind fun (number, rest) =>
        let size := decoded.length + 1
        let code := code + (place + number) / size
        let spot := (place + number) % size
        if code.isValidChar then
          insertAll? n code (spot + 1) (nextBias number size (place == 0))
            (decoded.take spot ++ Char.ofNat code :: decoded.drop spot) rest
        else none

/-- The text that a punycode stands for. Its last hyphen, unless nothing is in front of it, ends the
characters that are ASCII. -/
def decode? (t : Text) : Option Text :=
  let numbers := (t.reverse.takeWhile (· ≠ '-')).reverse
  let ascii := t.take (t.length - numbers.length - 1)
  if ascii.isEmpty then insertAll? (t.length + 1) 128 0 72 [] t
  else insertAll? (numbers.length + 1) 128 0 72 ascii numbers

def digits (bias position n : Nat) : Text :=
  let t := threshold bias position
  if n < t then [digit n] else digit (t + (n - t) % (36 - t)) :: digits bias (position + 36) ((n - t) / (36 - t))
termination_by n
decreasing_by
  have h := one_le_threshold bias position
  have := Nat.div_le_self (n - threshold bias position) (36 - threshold bias position)
  omega

/-- What has been written so far, and how far the pairs have been gone through since. -/
structure Progress where
  written : Text
  distance : Nat
  bias : Nat
  /-- How many characters have been written. -/
  size : Nat
  isFirst : Bool

namespace Progress

/-- Goes past a character of the text, or writes its number if it has the code. -/
def pass (code : Nat) (p : Progress) (c : Char) : Progress :=
  if c.toNat < code then { p with distance := p.distance + 1 }
  else if c.toNat = code then
    { written := p.written ++ digits p.bias 36 p.distance
      distance := 0
      bias := nextBias p.distance (p.size + 1) p.isFirst
      size := p.size + 1
      isFirst := false }
  else p

/-- Writes all characters of a text with the code, having gone through all codes below `start`. -/
def passAll (t : Text) (state : Progress × Nat) (code : Nat) : Progress × Nat :=
  let (p, start) := state
  let p := t.foldl (pass code) { p with distance := p.distance + (code - start) * (p.size + 1) }
  ({ p with distance := p.distance + 1 }, code + 1)

end Progress

def encode (t : Text) : Text :=
  let ascii := t.filter fun c => c.toNat < 128
  let codes := ((t.filter fun c => 128 ≤ c.toNat).map Char.toNat).mergeSort.eraseDups
  let start : Progress := ⟨[], 0, 72, ascii.length, true⟩
  let (p, _) := codes.foldl (Progress.passAll t) (start, 128)
  ascii ++ (if ascii.isEmpty then [] else ['-']) ++ p.written

end C4Diagram.Punycode
