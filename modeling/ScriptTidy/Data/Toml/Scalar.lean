import ScriptTidy.Data.Decimal

/-!
# Numbers and dates of TOML

Which runs of characters are numbers, dates or times. Nothing in a configuration is given by a number or a date, so
that it only matters whether a run is one.
-/

namespace ScriptTidy

namespace Toml

/-- Digits with single low lines between them, without the low lines. -/
def plainDigits? (isDigit : Char → Bool) : List Char → Option (List Char)
  | [] => none
  | [c] => if isDigit c then some [c] else none
  | c :: '_' :: rest => if isDigit c then (plainDigits? isDigit rest).map (c :: ·) else none
  | c :: rest => if isDigit c then (plainDigits? isDigit rest).map (c :: ·) else none

/-- The digits of a whole number in base ten: one zero, or digits that do not start with a zero. -/
def wholeDigits? (cs : List Char) : Option (List Char) :=
  match plainDigits? Char.isDigit cs with
  | some ('0' :: _ :: _) => none
  | r => r

/-- Take a sign off the front. -/
def unsigned : List Char → Bool × List Char
  | '-' :: rest => (true, rest)
  | '+' :: rest => (false, rest)
  | rest => (false, rest)

/-- A whole number is small enough: it fits into 128 bits with or without a sign. -/
def fits (negative : Bool) (n : Nat) : Bool := if negative then n ≤ Nat.pow 2 127 else n < Nat.pow 2 128

/-- The run is a whole number with a given base. -/
def isBased (base : Nat) (isDigit : Char → Bool) (cs : List Char) : Bool :=
  match plainDigits? isDigit cs with
  | some ds => (Decimal.value? base ds).any (fits false)
  | none => false

/-- The digit belongs to base sixteen. -/
def isHexDigit (c : Char) : Bool := (Decimal.hexValue? c).isSome

/-- The run is a whole number. -/
def isInteger : List Char → Bool
  | '0' :: 'x' :: cs => isBased 16 isHexDigit cs
  | '0' :: 'o' :: cs => isBased 8 (fun c => '0' ≤ c && c ≤ '7') cs
  | '0' :: 'b' :: cs => isBased 2 (fun c => c = '0' || c = '1') cs
  | cs =>
    let (negative, cs) := unsigned cs
    match wholeDigits? cs with
    | some ds => fits negative (Decimal.value ds)
    | none => false

/-- The exponent that the letter `e` and digits give. -/
def exponent? (cs : List Char) : Option Int :=
  let (negative, cs) := unsigned cs
  (plainDigits? Char.isDigit cs).map fun ds => if negative then -Decimal.value ds else Decimal.value ds

/-- The character opens an exponent. -/
def isExponentMark (c : Char) : Bool := c = 'e' || c = 'E'

/-- The run is a number with a point or an exponent, within the range of double precision, or one of the words for
what is no number. -/
def isFloat (cs : List Char) : Bool :=
  let (_, cs) := unsigned cs
  if cs = ['i', 'n', 'f'] ∨ cs = ['n', 'a', 'n'] then true
  else
    let front := cs.takeWhile (!isExponentMark ·)
    let power := match cs.dropWhile (!isExponentMark ·) with
      | [] => some (0 : Int)
      | _ :: back => exponent? back
    let whole := front.takeWhile (· ≠ '.')
    let fraction := match front.dropWhile (· ≠ '.') with
      | [] => some []
      | _ :: back => plainDigits? Char.isDigit back
    (front.contains '.' || cs.any isExponentMark) &&
      match wholeDigits? whole, fraction, power with
      | some ws, some fs, some p => Decimal.inRange (Decimal.value (ws ++ fs)) (p - fs.length)
      | _, _, _ => false

/-- The number that exactly `count` digits at the front stand for, and what follows them. -/
def fixedNumber? (count : Nat) (cs : List Char) : Option (Nat × List Char) :=
  let ds := cs.take count
  if ds.length = count ∧ ds.all Char.isDigit then some (Decimal.value ds, cs.drop count) else none

/-- The number of days of a month. -/
def daysIn (year month : Nat) : Nat :=
  if month = 2 then if (year % 4 = 0 ∧ year % 100 ≠ 0) ∨ year % 400 = 0 then 29 else 28
  else if month = 4 ∨ month = 6 ∨ month = 9 ∨ month = 11 then 30
  else 31

/-- Read a date and give what follows it. -/
def date? (cs : List Char) : Option (List Char) := do
  let (year, cs) ← fixedNumber? 4 cs
  let '-' :: cs := cs | none
  let (month, cs) ← fixedNumber? 2 cs
  let '-' :: cs := cs | none
  let (day, cs) ← fixedNumber? 2 cs
  if 1 ≤ month ∧ month ≤ 12 ∧ 1 ≤ day ∧ day ≤ daysIn year month then some cs else none

/-- Read the parts of a second and give what follows them. -/
def secondParts? : List Char → Option (List Char)
  | '.' :: cs => if (Decimal.span cs).1.isEmpty then none else some (Decimal.span cs).2
  | cs => some cs

/-- Read a time and give what follows it. The seconds may be missing. -/
def time? (cs : List Char) : Option (List Char) := do
  let (hour, cs) ← fixedNumber? 2 cs
  let ':' :: cs := cs | none
  let (minute, cs) ← fixedNumber? 2 cs
  if 23 < hour ∨ 59 < minute then none
  else
    match cs with
    | ':' :: cs => do
      let (second, cs) ← fixedNumber? 2 cs
      if 60 < second then none else secondParts? cs
    | cs => some cs

/-- The run is the distance of a clock from the world's time. -/
def isOffset : List Char → Bool
  | ['Z'] | ['z'] => true
  | sign :: cs =>
    (sign = '+' || sign = '-') &&
      match fixedNumber? 2 cs with
      | some (hour, ':' :: cs) =>
        match fixedNumber? 2 cs with
        | some (minute, []) => hour ≤ 23 && minute ≤ 59
        | _ => false
      | _ => false
  | [] => false

/-- The run is a time, and nothing follows it but, with a date before it, a distance from the world's time. -/
def isClock (dated : Bool) (cs : List Char) : Bool :=
  match time? cs with
  | some [] => true
  | some rest => dated && isOffset rest
  | none => false

/-- The run is a date, a time, or both. -/
def isMoment (cs : List Char) : Bool :=
  match date? cs with
  | some [] => true
  | some (mark :: rest) => (mark = 'T' || mark = 't' || mark = ' ') && isClock true rest
  | none => isClock false cs

/-- The run is a number or a date. -/
def isScalar (cs : List Char) : Bool := isInteger cs || isFloat cs || isMoment cs

end Toml

end ScriptTidy
