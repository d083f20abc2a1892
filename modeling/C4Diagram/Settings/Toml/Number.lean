import C4Diagram.Text.Lines
import C4Diagram.Url.Host

/-!
Numbers of TOML: whole numbers in four bases and decimals. A well-formed number may still be out of
range: a whole number that needs more than 128 bits, a decimal that rounds to no finite double.
-/

namespace C4Diagram.Toml

/-- Digits, where single underscores may stand between two of them. -/
def isDigitRun (isDigit : Char → Bool) (t : Text) : Bool :=
  (Text.pieces '_' t).all fun p => !p.isEmpty && p.all isDigit

def withoutSign : Text → Text
  | '+' :: r => r
  | '-' :: r => r
  | t => t

def isWholeNumber (t : Text) : Bool := isDigitRun Char.isDigit t && (t.length == 1 || t.head? != some '0')

def digitsOf (t : Text) : Text := t.filter (· ≠ '_')

def numberOf (base : Nat) (t : Text) : Nat := (Url.digits? base (digitsOf t)).getD 0

def wholeNumber? (t : Text) : Option Nat :=
  match t with
  | '0' :: 'x' :: r => if isDigitRun (fun c => (Url.hexValue? c).isSome) r then some (numberOf 16 r) else none
  | '0' :: 'o' :: r => if isDigitRun (fun c => '0' ≤ c && c ≤ '7') r then some (numberOf 8 r) else none
  | '0' :: 'b' :: r => if isDigitRun (fun c => c == '0' || c == '1') r then some (numberOf 2 r) else none
  | _ => if isWholeNumber (withoutSign t) then some (numberOf 10 (withoutSign t)) else none

/-- Fits into 128 bits, with a sign if it is negative. -/
def fits (isNegative : Bool) (n : Nat) : Bool := if isNegative then n ≤ 1 <<< 127 else n < 1 <<< 128

/-- A decimal without its sign: the digits in front of the point and behind it, and the power of ten
that they are multiplied by. -/
structure Decimal where
  whole : Text
  fraction : Text
  exponent : Int

namespace Decimal

/-- What a decimal has to stay below: half a step above the largest double. -/
def bound : Nat := (1 <<< 1024) - (1 <<< 970)

def boundSize : Nat := 309

/-- Does not reach the bound. Of a decimal with as many digits in front of its point as the bound
has, these digits decide. -/
def isInRange (d : Decimal) : Bool :=
  let digits := (d.whole ++ d.fraction).dropWhile (· == '0')
  let size : Int := digits.length + d.exponent - d.fraction.length
  let leading := (digits ++ List.replicate boundSize '0').take boundSize
  digits.isEmpty || size < boundSize || (size == boundSize && numberOf 10 leading < bound)

end Decimal

def exponent? (t : Text) : Option Int :=
  if isDigitRun Char.isDigit (withoutSign t) then
    let n : Int := numberOf 10 (withoutSign t)
    some (if t.head? = some '-' then -n else n)
  else none

/-- A whole number with a fraction, an exponent or both, from what follows the sign. -/
def decimal? (t : Text) : Option Decimal := do
  let isExponentMark := fun c => c == 'e' || c == 'E'
  let mantissa := t.takeWhile fun c => !isExponentMark c
  let exponent ← match t.dropWhile fun c => !isExponentMark c with
    | [] => some none
    | _ :: r => (exponent? r).map some
  match Text.pieces '.' mantissa with
  | [whole] => if isWholeNumber whole then exponent.map fun e => ⟨digitsOf whole, [], e⟩ else none
  | [whole, fraction] =>
    if isWholeNumber whole && isDigitRun Char.isDigit fraction then
      some ⟨digitsOf whole, digitsOf fraction, exponent.getD 0⟩
    else none
  | _ => none

def isSpecialNumber (t : Text) : Bool :=
  withoutSign t == "inf".toList || withoutSign t == "nan".toList

def numberRange? (t : Text) : Option Bool :=
  if isSpecialNumber t then some true
  else
    match wholeNumber? t with
    | some n => some (fits (t.head? = some '-') n)
    | none => (decimal? (withoutSign t)).map Decimal.isInRange

end C4Diagram.Toml
