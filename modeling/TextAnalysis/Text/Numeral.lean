/-!
# Decimal numerals

A count is read from an optional plus sign and one or more ASCII digits, and must fit in 64 bits.
-/

namespace TextAnalysis.Text

/-- The number of distinct counts. -/
def countLimit : Nat := 0x10000000000000000

/-- The value of decimal digits read after the value `n`, if all characters are digits. -/
def digitsValue? : Nat → List Char → Option Nat
  | n, [] => some n
  | n, c :: cs => if c.isDigit then digitsValue? (10 * n + (c.toNat - 48)) cs else none

/-- The value of one or more decimal digits. -/
def unsigned? : List Char → Option Nat
  | [] => none
  | cs => digitsValue? 0 cs

/-- The characters after an opening plus sign, or all of them. -/
def dropPlus : List Char → List Char
  | '+' :: cs => cs
  | cs => cs

/-- The count that a text spells. -/
def count? (s : String) : Option Nat :=
  (unsigned? (dropPlus s.toList)).filter (· < countLimit)

/-- The decimal digits of a number. -/
def decimal (n : Nat) : String := String.ofList (Nat.toDigits 10 n)

/-- The decimal digits of an integer, after a minus sign if it is negative. -/
def signedDecimal : Int → String
  | .ofNat n => decimal n
  | .negSucc n => "-" ++ decimal (n + 1)

end TextAnalysis.Text
