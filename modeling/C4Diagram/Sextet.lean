import C4Diagram.Text.Search
import C4Diagram.Text.Utf8

/-!
Bytes as letters of six bits each. Three bytes make four letters of an alphabet that needs no
escape in an address; a last group that is short is filled with zero bytes, which stay when the
letters are read back.
-/

namespace C4Diagram

/-- The letters, each at the place of its value. -/
def sextetAlphabet : List Char :=
  "0123456789ABCDEFGHIJKLMNOPQRSTUVWXYZabcdefghijklmnopqrstuvwxyz-_".toList

def sextetLetter (value : Nat) : Char := sextetAlphabet.getD value '0'

def sextetValue? (c : Char) : Option Nat :=
  if c.isDigit then some (c.toNat - '0'.toNat)
  else if c.isUpper then some (c.toNat - 'A'.toNat + 10)
  else if c.isLower then some (c.toNat - 'a'.toNat + 36)
  else if c = '-' then some 62
  else if c = '_' then some 63
  else none

def packGroup (a b c : UInt8) : Text :=
  [sextetLetter (a.toNat / 4), sextetLetter (a.toNat % 4 * 16 + b.toNat / 16),
    sextetLetter (b.toNat % 16 * 4 + c.toNat / 64), sextetLetter (c.toNat % 64)]

/-- The bytes as letters. A last group of one or two bytes is filled with zero bytes. -/
def pack : List UInt8 → Text
  | a :: b :: c :: rest => packGroup a b c ++ pack rest
  | [a, b] => packGroup a b 0
  | [a] => packGroup a 0 0
  | [] => []

def unpackGroup (p q r s : Nat) : List UInt8 :=
  [UInt8.ofNat (p * 4 + q / 16), UInt8.ofNat (q % 16 * 16 + r / 4), UInt8.ofNat (r % 4 * 64 + s)]

def unpackGroups : List Nat → List UInt8
  | p :: q :: r :: s :: rest => unpackGroup p q r s ++ unpackGroups rest
  | _ => []

inductive UnpackError where
  | invalidLength (bytes : Nat)
  | invalidCharacter (character : Char) (position : Nat)
deriving DecidableEq

def sextetValues (position : Nat) : Text → Except UnpackError (List Nat)
  | [] => .ok []
  | c :: r =>
    match sextetValue? c with
    | none => .error (.invalidCharacter c position)
    | some v => (sextetValues (position + 1) r).map (v :: ·)

/-- The bytes of the letters. Their number is checked first, and counted in bytes; the first
character outside the alphabet is named with its position among the characters. -/
def unpack (t : Text) : Except UnpackError (List UInt8) :=
  if t.utf8Size % 4 ≠ 0 then .error (.invalidLength t.utf8Size)
  else (sextetValues 0 t).map unpackGroups

theorem sextetAlphabet_length : sextetAlphabet.length = 64 := by decide

/-- Each value is the value of its letter. -/
theorem sextetValue?_sextetLetter : ∀ v < 64, sextetValue? (sextetLetter v) = some v := by decide +kernel

theorem length_pack (bytes : List UInt8) : (pack bytes).length = (bytes.length + 2) / 3 * 4 := by
  fun_induction pack bytes with
  | case1 a b c rest ih => simp only [List.length_append, List.length_cons, ih, packGroup, List.length_nil]; omega
  | case2 => simp [packGroup]
  | case3 => simp [packGroup]
  | case4 => rfl

end C4Diagram
