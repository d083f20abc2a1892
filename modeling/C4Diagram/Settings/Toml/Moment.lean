import C4Diagram.Text.Lines
import C4Diagram.Url.Host

/-!
Dates and times of TOML. Seconds may be missing, and a minute may have a leap second.
-/

namespace C4Diagram.Toml

def twoDigits? (t : Text) : Option Nat := if t.length = 2 then Url.digits? 10 t else none

def daysIn (year month : Nat) : Nat :=
  if month = 2 then if (year % 4 = 0 ∧ year % 100 ≠ 0) ∨ year % 400 = 0 then 29 else 28
  else if [4, 6, 9, 11].contains month then 30 else 31

def isDate (t : Text) : Bool :=
  match Text.pieces '-' t with
  | [year, month, day] =>
    match if year.length = 4 then Url.digits? 10 year else none, twoDigits? month, twoDigits? day with
    | some y, some m, some d => 1 ≤ m && m ≤ 12 && 1 ≤ d && d ≤ daysIn y m
    | _, _, _ => false
  | _ => false

def isTime (t : Text) : Bool :=
  let isSecond (s : Text) : Bool :=
    match Text.pieces '.' s with
    | [whole] => (twoDigits? whole).any (· ≤ 60)
    | [whole, fraction] => (twoDigits? whole).any (· ≤ 60) && !fraction.isEmpty && fraction.all Char.isDigit
    | _ => false
  match Text.pieces ':' t with
  | hour :: minute :: rest =>
    (twoDigits? hour).any (· ≤ 23) && (twoDigits? minute).any (· ≤ 59) &&
      match rest with
      | [] => true
      | [second] => isSecond second
      | _ => false
  | _ => false

def isTimeWithOffset (t : Text) : Bool :=
  let time := t.takeWhile fun c => !(['Z', 'z', '+', '-'].contains c)
  isTime time &&
    match t.drop time.length with
    | [] => true
    | ['Z'] => true
    | ['z'] => true
    | _ :: offset =>
      match Text.pieces ':' offset with
      | [hour, minute] => (twoDigits? hour).any (· ≤ 23) && (twoDigits? minute).any (· ≤ 59)
      | _ => false

/-- A date, a time, or both with a letter T or a space between them. -/
def isMoment (t : Text) : Bool :=
  isTime t || isDate t ||
    match t.drop 10 with
    | mark :: r => (mark == 'T' || mark == 't' || mark == ' ') && isDate (t.take 10) && isTimeWithOffset r
    | [] => false

end C4Diagram.Toml
