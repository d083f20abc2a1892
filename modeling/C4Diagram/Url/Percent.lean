import C4Diagram.Text.Utf8

/-!
Percent encoding. Each part of an address has its set of characters that are written as percent
signs and hexadecimal bytes; every set holds the control characters and all that is not ASCII.
-/

namespace C4Diagram.Url

abbrev EncodeSet := Char → Bool

def isControl (c : Char) : Bool := c.toNat < 0x20 || 0x7E < c.toNat

def fragmentSet : EncodeSet := fun c => isControl c || [' ', '"', '<', '>', '\x60'].contains c

def querySet : EncodeSet := fun c => isControl c || [' ', '"', '#', '<', '>'].contains c

def specialQuerySet : EncodeSet := fun c => querySet c || c == '\''

def pathSet : EncodeSet := fun c => fragmentSet c || ['#', '?', '{', '}'].contains c

def userinfoSet : EncodeSet := fun c =>
  pathSet c || ['/', ':', ';', '=', '@', '[', '\\', ']', '^', '|'].contains c

def hexDigit (n : Nat) : Char := if n < 10 then Char.ofNat (48 + n) else Char.ofNat (55 + n)

def hexValue? (c : Char) : Option Nat :=
  if c.isDigit then some (c.toNat - 48)
  else if 'a' ≤ c ∧ c ≤ 'f' then some (c.toNat - 87)
  else if 'A' ≤ c ∧ c ≤ 'F' then some (c.toNat - 55)
  else none

def encodeByte (b : UInt8) : Text := ['%', hexDigit (b.toNat / 16), hexDigit (b.toNat % 16)]

def encode (set : EncodeSet) (t : Text) : Text :=
  t.flatMap fun c => if set c then (Text.utf8 [c]).toList.flatMap encodeByte else [c]

/-- The bytes of the text, where a percent sign with two hexadecimal digits stands for one byte. -/
def decodeBytes : Text → List UInt8
  | [] => []
  | '%' :: a :: b :: r =>
    match hexValue? a, hexValue? b with
    | some x, some y => UInt8.ofNat (x * 16 + y) :: decodeBytes r
    | _, _ => 37 :: decodeBytes (a :: b :: r)
  | c :: r => (Text.utf8 [c]).toList ++ decodeBytes r

/-- A text that has no character of the set stays as it is. -/
theorem encode_eq_self {set : EncodeSet} {t : Text} (h : ∀ c ∈ t, set c = false) : encode set t = t := by
  induction t with
  | nil => rfl
  | cons c r ih =>
    have hr := ih fun d hd => h d (by simp [hd])
    simp only [encode] at hr
    simp [encode, h c (by simp), hr]

end C4Diagram.Url
