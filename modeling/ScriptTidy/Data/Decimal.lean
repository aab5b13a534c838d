/-!
# Decimal numerals

What the number formats of the configuration files share: the value of a run of digits, and the range of double
precision.
-/

namespace ScriptTidy

namespace Decimal

/-- The value of a hexadecimal digit. -/
def hexValue? (c : Char) : Option Nat :=
  if '0' ≤ c ∧ c ≤ '9' then some (c.toNat - '0'.toNat)
  else if 'a' ≤ c ∧ c ≤ 'f' then some (c.toNat - 'a'.toNat + 10)
  else if 'A' ≤ c ∧ c ≤ 'F' then some (c.toNat - 'A'.toNat + 10)
  else none

/-- The number that digits stand for in a base up to sixteen, if all of them are digits of that base. -/
def value? (base : Nat) (digits : List Char) : Option Nat :=
  digits.foldlM (fun n c =>
    match hexValue? c with
    | some d => if d < base then some (base * n + d) else none
    | none => none) 0

/-- The number that decimal digits stand for. -/
def value (digits : List Char) : Nat := digits.foldl (fun n c => 10 * n + (c.toNat - '0'.toNat)) 0

/-- Cut the digits off the front. -/
def span (cs : List Char) : List Char × List Char := (cs.takeWhile Char.isDigit, cs.dropWhile Char.isDigit)

/-- The first number that double precision rounds to infinity. -/
def overflow : Nat := Nat.pow 2 1024 - Nat.pow 2 970

/-- A mantissa times a power of ten lies within the range of double precision. -/
def inRange (mantissa : Nat) (exponent : Int) : Bool :=
  let digits := (Nat.toDigits 10 mantissa).length
  mantissa == 0 || digits + exponent < 309 ||
    (digits + exponent == 309 && mantissa * Nat.pow 10 exponent.toNat < overflow * Nat.pow 10 (-exponent).toNat)

end Decimal

end ScriptTidy
